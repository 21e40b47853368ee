import DerivationPool.CommandLine.Startup
import DerivationPool.Proofs.MasterKey.Source
import DerivationPool.Proofs.Operation.Responses
import DerivationPool.Proofs.Operation.Table

/-!
The start of a run and its master key. The options choose one source, and the run derives
with the key of that source or does not get as far as a pool. Stages are told by what they
come to and by the log after them: an entry is written at the end, and after the first
fault nothing more happens.
-/
namespace DerivationPool.CommandLine

open Log

namespace Stage

variable {α β : Type} {log log' : List Entry}

/-- What a stage comes to, and the log after it. -/
def after (stage : Stage α) (log : List Entry) : Except StartFault α × List Entry :=
  stage.run.run log

/-- The second stage writes behind the log of the first, and a fault of the first ends both. -/
theorem after_bind (stage : Stage α) (next : α → Stage β) (log : List Entry) :
    (stage >>= next).after log =
      (ExceptT.bindCont next (stage.after log).1).run (stage.after log).2 := rfl

theorem after_bind_of_ok {stage : Stage α} (next : α → Stage β) {a : α}
    (h : stage.after log = (.ok a, log')) : (stage >>= next).after log = (next a).after log' := by
  rw [after_bind, h]
  rfl

theorem after_bind_of_error {stage : Stage α} (next : α → Stage β) {fault : StartFault}
    (h : stage.after log = (.error fault, log')) :
    (stage >>= next).after log = (.error fault, log') := by
  rw [after_bind, h]
  rfl

/-- A stage that comes to something has come through its first part. -/
theorem exists_after_of_bind {stage : Stage α} {next : α → Stage β} {b : β}
    (h : (stage >>= next).after log = (.ok b, log')) :
    ∃ a mid, stage.after log = (.ok a, mid) ∧ (next a).after mid = (.ok b, log') := by
  cases hstage : stage.after log with
  | mk result mid =>
    cases result with
    | error fault =>
      rw [after_bind_of_error next hstage] at h
      cases h
    | ok a =>
      rw [after_bind_of_ok next hstage] at h
      exact ⟨a, mid, rfl, h⟩

theorem after_ofExcept_ok {ε : Type} (fault : ε → StartFault) (a : α) (log : List Entry) :
    (ofExcept fault (.ok a)).after log = (.ok a, log) := rfl

theorem eq_ok_of_after_ofExcept {ε : Type} {fault : ε → StartFault} {result : Except ε α} {a : α}
    (h : (ofExcept fault result).after log = (.ok a, log')) : result = .ok a := by
  cases result with
  | error e => cases h
  | ok a' =>
    cases h
    rfl

theorem after_note (level : Level) (part : Part) (message : String)
    (fields : List (String × String)) (log : List Entry) :
    (note level part message fields).after log =
      (.ok (), log ++ [⟨level, part.target, message, fields⟩]) := rfl

end Stage

/-- The source of the master key that the options choose: a file before a variable, and the
reference key only where neither is named. -/
inductive Options.Chooses (o : Options) : KeySource → Prop where
  | file {path : String} (hfile : o.keyFile = some path) : Chooses o (.file path)
  | environment {name : String} (hfile : o.keyFile = none) (hvariable : o.keyVariable = some name) :
      Chooses o (.environment name)
  | reference (hfile : o.keyFile = none) (hvariable : o.keyVariable = none) :
      Chooses o (.fixed MasterKey.referenceBytes)

def warnings (o : Options) : List Entry :=
  if o.keyFile.isNone ∧ o.keyVariable.isNone then
    [⟨.warn, Part.service.target, "no master key configured, using the built-in reference key", []⟩,
      ⟨.warn, Part.service.target, "this is NOT suitable for production use!", []⟩]
  else []

/-- The first entries of a log, before the master key is loaded. -/
def opening (o : Options) : List Entry :=
  ⟨.info, Part.service.target, "keyhose worker starting", []⟩ :: warnings o

def loadedEntry (source : KeySource) (key : MasterKey) : Entry :=
  ⟨.info, Part.masterKey.target, "master key loaded",
    [("source", Text.quoted source.name), ("len", toString key.size)]⟩

def refusedEntry (source : KeySource) (e : DerivationError) : Entry :=
  ⟨.error, Part.masterKey.target, "master key unavailable",
    [("source", Text.quoted source.name), ("error", e.message)]⟩

section Key

variable {s : Surroundings} {o : Options} {chosen : KeySource} {log : List Entry}

theorem Options.chooses_select (o : Options) :
    o.Chooses (KeySource.select o.keyFile o.keyVariable) := by
  cases hfile : o.keyFile with
  | some path => exact .file hfile
  | none =>
    cases hvariable : o.keyVariable with
    | some name => exact .environment hfile hvariable
    | none => exact .reference hfile hvariable

theorem Options.Chooses.eq_select (h : o.Chooses chosen) :
    chosen = KeySource.select o.keyFile o.keyVariable := by
  cases h with
  | file hfile =>
    rw [hfile]
    rfl
  | environment hfile hvariable | reference hfile hvariable =>
    rw [hfile, hvariable]
    rfl

theorem after_chooseKeySource (h : o.Chooses chosen) :
    (chooseKeySource o).after log = (.ok chosen, log ++ warnings o) := by
  rw [h.eq_select, chooseKeySource, warnings]
  split
  · rw [List.append_cons]
    rfl
  · rw [List.append_nil]
    rfl

theorem after_loadKey_of_ok {key : MasterKey} (h : chosen.load s = .ok key) :
    (loadKey s chosen).after log = (.ok key, log ++ [loadedEntry chosen key]) := by
  simp only [loadKey, h]
  rfl

theorem after_loadKey_of_error {e : DerivationError} (h : chosen.load s = .error e) :
    (loadKey s chosen).after log = (.error (.derivation e), log ++ [refusedEntry chosen e]) := by
  simp only [loadKey, h]
  rfl

theorem after_takeKey (hchosen : o.Chooses chosen) :
    (takeKey s o).after log = (loadKey s chosen).after (log ++ opening o) := by
  rw [takeKey, Stage.after_bind_of_ok _ (Stage.after_note ..),
    Stage.after_bind_of_ok _ (after_chooseKeySource hchosen), List.append_assoc]
  rfl

/-- Surroundings that differ in nothing that the source comes to take a run to the same key, or to
the same end. -/
theorem after_takeKey_congr {s' : Surroundings} (hchosen : o.Chooses chosen)
    (hload : chosen.load s' = chosen.load s) :
    (takeKey s' o).after log = (takeKey s o).after log := by
  rw [after_takeKey hchosen, after_takeKey hchosen, loadKey, loadKey, hload]

end Key

/-- A table whose fresh secrets belong to a master key: each is derived from it with the salt that
comes with it. -/
def DerivesWith {σ : Type} (table : Table σ) (bytes : Bytes) (params : Secret.Params) : Prop :=
  ∃ operation, table.get? deriveSecretName = some operation ∧
    ∀ job state payload, (operation.run job state).1 = .returned (.ok payload) →
      ∃ response, Message.decode DerivationResponse payload = .ok response ∧
        derive .sha256 bytes response.salt params.info params.secretLength = .ok response.secret

section Table

variable {σ : Type} {source : Entropy σ} {table : Table σ} {log log' : List Entry}

/-- The table of a service draws its secrets from the key that it was built over. -/
theorem derivesWith_of_standard {deriver : Secret.Deriver}
    (h : Table.standard deriver source = .ok table) :
    DerivesWith table deriver.master.bytes deriver.params := by
  refine ⟨_, Table.get?_deriveSecretName h, fun job state payload hpayload => ?_⟩
  have houtcome : (deriveSecret deriver source state).1 = .returned (.ok payload) := hpayload
  obtain ⟨salt, hlength, response, -, hdecode, rfl, hsecret⟩ :=
    response_of_outcome (outcome_of_deriveSecret houtcome)
  have hsalt : response.salt ≠ [] := by
    refine List.ne_nil_of_length_pos ?_
    rw [hlength]
    exact deriver.saltLength_pos
  refine ⟨response, hdecode, ?_⟩
  rw [hsecret]
  exact deriver.derive_of_ne_nil hsalt

theorem exists_after_registerOperations (deriver : Secret.Deriver) (source : Entropy σ)
    (log : List Entry) :
    ∃ table log', (registerOperations deriver source).after log = (.ok table, log') := by
  rw [registerOperations, Stage.after_bind_of_ok _ (Stage.after_note ..), Table.standard_eq,
    Stage.after_bind_of_ok _ (Stage.after_ofExcept_ok ..)]
  exact ⟨_, _, rfl⟩

/-- A run with a master key comes to its operations unless its entropy source is late or its
parameters are refused. -/
theorem exists_after_openTable (source : Entropy σ) {delay : Elapsed} {o : Options}
    (key : MasterKey) (hready : Entropy.ready delay o.entropyTimeout = .ok ())
    (hvalid : o.service.derivation.validate = .ok ()) (log : List Entry) :
    ∃ table log', (openTable source delay o key).after log = (.ok table, log') := by
  obtain ⟨deriver, hbuild⟩ := (Secret.Deriver.exists_build_iff key _).mpr hvalid
  rw [openTable, hready, Stage.after_bind_of_ok _ (Stage.after_ofExcept_ok ..), hbuild,
    Stage.after_bind_of_ok _ (Stage.after_ofExcept_ok ..)]
  exact exists_after_registerOperations deriver source log

/-- What a run serves is the standard table over a deriver that holds the key of the run. -/
theorem exists_deriver_of_openTable {delay : Elapsed} {o : Options} {key : MasterKey}
    (h : (openTable source delay o key).after log = (.ok table, log')) :
    ∃ deriver, deriver.master = key ∧ deriver.params = o.service.derivation ∧
      Table.standard deriver source = .ok table := by
  obtain ⟨-, _, -, h⟩ := Stage.exists_after_of_bind h
  obtain ⟨deriver, _, hbuild, h⟩ := Stage.exists_after_of_bind h
  obtain ⟨hmaster, hparams⟩ := Secret.Deriver.build_eq_ok (Stage.eq_ok_of_after_ofExcept hbuild)
  obtain ⟨-, _, -, h⟩ := Stage.exists_after_of_bind h
  obtain ⟨built, _, hbuilt, h⟩ := Stage.exists_after_of_bind h
  obtain ⟨-, _, -, h⟩ := Stage.exists_after_of_bind h
  cases h
  exact ⟨deriver, hmaster, hparams, Stage.eq_ok_of_after_ofExcept hbuilt⟩

end Table

/-- A run that ends for a fault in its derivations is seen to fail, and it was not ready to be
called if its log does not say so. -/
theorem Report.fails_ofRun (filter : Filter) (e : DerivationError) {log : List Entry}
    (h : ∀ entry ∈ log, entry.message ≠ startingMessage) :
    (Report.ofRun filter (.error (.derivation e)) log).code ≠ 0 ∧
      (Report.ofRun filter (.error (.derivation e)) log).listening = false := by
  have hsilent : ∀ entries : List Entry, (∀ entry ∈ entries, entry ∈ log) →
      (entries.any fun entry => entry.message = startingMessage) = false := by
    intro entries hsub
    rw [List.any_eq_false]
    intro entry hentry
    simpa using h entry (hsub entry hentry)
  have hbroken : (101 : UInt8) ≠ 0 := by decide
  have hfailed : (1 : UInt8) ≠ 0 := by decide
  unfold Report.ofRun
  split
  · exact ⟨hbroken, rfl⟩
  · exact ⟨hfailed, hsilent _ fun entry hentry => (List.mem_filter.mp hentry).1⟩

theorem silent_warnings (o : Options) :
    ∀ entry ∈ warnings o, entry.message ≠ startingMessage := by
  rw [warnings]
  split
  · decide
  · intro entry hentry
    cases hentry

/-- The entries of a run that has no key do not say that it was ready to be called. -/
theorem silent_of_refused (o : Options) (chosen : KeySource) (e : DerivationError) :
    ∀ entry ∈ opening o ++ [refusedEntry chosen e], entry.message ≠ startingMessage := by
  have hstarting : "keyhose worker starting" ≠ startingMessage := by decide
  have hrefused : "master key unavailable" ≠ startingMessage := by decide
  rw [opening, List.forall_mem_append, List.forall_mem_cons, List.forall_mem_singleton]
  exact ⟨⟨hstarting, silent_warnings o⟩, hrefused⟩

section Refused

variable {σ : Type} {s : Surroundings} {source : Entropy σ} {delay : Elapsed} {o : Options}
  {chosen : KeySource} {e : DerivationError} (hchosen : o.Chooses chosen)
  (hload : chosen.load s = .error e)

include hchosen hload

/-- A run whose key is refused has opened its log, written the refusal and done nothing else. -/
theorem after_serve_of_refused (log : List Entry) :
    (serve s source delay o).after log =
      (.error (.derivation e), log ++ opening o ++ [refusedEntry chosen e]) := by
  have htake : (takeKey s o).after log = _ := after_takeKey hchosen
  rw [after_loadKey_of_error hload] at htake
  rw [serve, Stage.after_bind_of_error _ htake]

theorem report_of_refused {words : List String}
    (hwords : Request.ofArguments words = .ok (.serve o)) :
    (Report.ofArguments s source delay words).code ≠ 0 ∧
      (Report.ofArguments s source delay words).listening = false := by
  have hbroken : (101 : UInt8) ≠ 0 := by decide
  have hrun : (serve s source delay o).run.run [] =
      (.error (.derivation e), opening o ++ [refusedEntry chosen e]) :=
    after_serve_of_refused hchosen hload []
  rw [Report.ofArguments]
  split
  · exact ⟨hbroken, rfl⟩
  · simp only [hwords, hrun]
    exact Report.fails_ofRun _ e (silent_of_refused o chosen e)

end Refused

/-- A run derives with the key of the one source that its options choose, or it ends before there is
anything to serve. -/
theorem key_of_start {σ : Type} (s : Surroundings) (source : Entropy σ) (delay : Elapsed)
    (o : Options) (log : List Entry) :
    (∃ chosen, o.Chooses chosen ∧ ∀ other, o.Chooses other → other = chosen) ∧
    ∀ chosen, o.Chooses chosen →
      ((∃ bytes, chosen.Supplies s bytes) ∨ ∃ lack, chosen.Lacks s lack) ∧
      (∀ bytes, chosen.Supplies s bytes →
        ∃ key : MasterKey, key.bytes = bytes ∧ chosen.load s = .ok key ∧
          (serve s source delay o).after log =
            (openTable source delay o key >>= serveTable s o).after
              (log ++ opening o ++ [loadedEntry chosen key]) ∧
          (Entropy.ready delay o.entropyTimeout = .ok () →
            o.service.derivation.validate = .ok () → ∀ before,
            ∃ table after, (openTable source delay o key).after before = (.ok table, after)) ∧
          ∀ (table : Table σ) before after,
            (openTable source delay o key).after before = (.ok table, after) →
            (∃ deriver : Secret.Deriver, deriver.master = key ∧
              deriver.params = o.service.derivation ∧ Table.standard deriver source = .ok table) ∧
            DerivesWith table bytes o.service.derivation) ∧
      (∀ lack, chosen.Lacks s lack →
        let e := DerivationError.keySourceUnavailable (lack.reason chosen.label)
        chosen.load s = .error e ∧
        (serve s source delay o).after log =
          (.error (.derivation e), log ++ opening o ++ [refusedEntry chosen e]) ∧
        (∀ words, Request.ofArguments words = .ok (.serve o) →
          (Report.ofArguments s source delay words).code ≠ 0 ∧
          (Report.ofArguments s source delay words).listening = false) ∧
        ∀ s', chosen.Lacks s' lack → (takeKey s' o).after log = (takeKey s o).after log) ∧
      ∀ s', chosen.SameIn s s' →
        chosen.load s' = chosen.load s ∧ (takeKey s' o).after log = (takeKey s o).after log := by
  refine ⟨⟨_, o.chooses_select, fun other hother => hother.eq_select⟩, ?_⟩
  intro chosen hchosen
  refine ⟨chosen.supplies_or_lacks s, ?_, ?_, ?_⟩
  · intro bytes hsupplies
    obtain ⟨key, hload, rfl⟩ := KeySource.load_of_supplies hsupplies
    refine ⟨key, rfl, hload, ?_, ?_, ?_⟩
    · have htake : (takeKey s o).after log = _ := after_takeKey hchosen
      rw [after_loadKey_of_ok hload] at htake
      rw [serve, Stage.after_bind_of_ok _ htake]
    · exact fun hready hvalid => exists_after_openTable source key hready hvalid
    · intro table before after htable
      obtain ⟨deriver, rfl, hparams, hstandard⟩ := exists_deriver_of_openTable htable
      refine ⟨⟨deriver, rfl, hparams, hstandard⟩, ?_⟩
      rw [← hparams]
      exact derivesWith_of_standard hstandard
  · -- The fault tells of the way alone, so what else is in the source plays no part.
    intro lack hlacks e
    have hload : chosen.load s = .error e := KeySource.load_of_lacks hlacks
    refine ⟨hload, after_serve_of_refused hchosen hload log,
      fun words => report_of_refused hchosen hload, ?_⟩
    intro s' hlacks'
    have hload' : chosen.load s' = .error e := KeySource.load_of_lacks hlacks'
    exact after_takeKey_congr hchosen (hload'.trans hload.symm)
  · intro s' hsame
    have hload := KeySource.load_of_sameIn hsame
    exact ⟨hload, after_takeKey_congr hchosen hload⟩

/-- The file of a run is missing, and the variable beside it, which has a key, is of no use. With
the file there, the run has the bytes in it, and its first secret is derived from them. -/
theorem key_of_missing_file :
    ∃ (o : Options) (s found : Surroundings), o.keyFile = some "k" ∧ o.keyVariable = some "V" ∧
      (∃ key : MasterKey, (KeySource.environment "V").load s = .ok key ∧ key.bytes = [0, 255]) ∧
      ((serve s Entropy.numbered ⟨0⟩ o).after []).1 = .error (.derivation (.keySourceUnavailable
        "failed to read k: No such file or directory (os error 2)")) ∧
      found.environment = s.environment ∧ found.read "k" = .ok [1, 2] ∧
      ∃ (key : MasterKey) (table : Table Nat) (log : List Entry), key.bytes = [1, 2] ∧
        (serve found Entropy.numbered ⟨0⟩ o).after [] = (serveTable found o table).after log ∧
        DerivesWith table [1, 2] o.service.derivation ∧
        ∃ operation payload response, table.get? deriveSecretName = some operation ∧
          (operation.run ⟨1, []⟩ 0).1 = .returned (.ok payload) ∧
          Message.decode DerivationResponse payload = .ok response ∧
          response.salt = List.replicate 16 0 ∧
          derive .sha256 [1, 2] response.salt [] 82 = .ok response.secret := by
  let o : Options := { Options.standard with keyFile := some "k", keyVariable := some "V" }
  let s : Surroundings := ⟨[("V", Text.encode "00ff")], fun _ => .error .missing⟩
  let found : Surroundings := ⟨[("V", Text.encode "00ff")], fun _ => .ok [1, 2]⟩
  have hchosen : o.Chooses (.file "k") := .file rfl
  have hvariable : (KeySource.environment "V").Supplies s [0, 255] :=
    .environment rfl (Text.decode?_encode _) rfl (by decide)
  refine ⟨o, s, found, rfl, rfl, KeySource.load_of_supplies hvariable, ?_, rfl, rfl, ?_⟩
  · obtain ⟨-, hstart⟩ := key_of_start s Entropy.numbered ⟨0⟩ o []
    obtain ⟨-, -, hrefused, -⟩ := hstart _ hchosen
    obtain ⟨-, hserve, -⟩ := hrefused _ (.unreadable rfl)
    rw [hserve]
    rfl
  · obtain ⟨-, hstart⟩ := key_of_start found Entropy.numbered ⟨0⟩ o []
    obtain ⟨-, hsupplied, -⟩ := hstart _ hchosen
    obtain ⟨key, hbytes, -, hserve, hexists, hderives⟩ := hsupplied [1, 2] (.file rfl (by decide))
    obtain ⟨table, log, htable⟩ := hexists rfl rfl _
    rw [hserve, Stage.after_bind_of_ok _ htable]
    obtain ⟨⟨deriver, rfl, hparams, hstandard⟩, hwith⟩ := hderives table _ log htable
    refine ⟨deriver.master, table, log, hbytes, rfl, hwith, ?_⟩
    have hfits : deriver.params.responseSize ≤ Message.maxSize := by
      rw [hparams]
      decide
    obtain ⟨payload, response, hrun, hdecode, hsalt, -⟩ :=
      deriver.payload_of_filled (show (Entropy.numbered.read deriver.saltLength 0).1 = _ from rfl) hfits
    obtain ⟨operation, hget, hderived⟩ := hwith
    obtain rfl := Option.some.inj ((Table.get?_deriveSecretName hstandard).symm.trans hget)
    obtain ⟨response', hdecode', hderive⟩ := hderived ⟨1, []⟩ 0 payload hrun
    rw [hdecode] at hdecode'
    cases hdecode'
    rw [Secret.Deriver.saltLength, hparams] at hsalt
    exact ⟨_, payload, response, hget, hrun, hdecode, hsalt, hderive⟩

end DerivationPool.CommandLine
