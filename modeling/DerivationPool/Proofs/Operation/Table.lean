import DerivationPool.Operation.Standard
import DerivationPool.Service.Handler
import Mathlib.Data.Finset.Card

/-!
The table of operations: what is found in that of a service, and what any calls for names make
of an empty one.
-/
namespace DerivationPool.Table

variable {σ : Type}

theorem lookup_cons_eq (name other : String) (operation : Operation σ)
    (entries : List (String × Operation σ)) :
    ((name, operation) :: entries).lookup other =
      if other = name then some operation else entries.lookup other := by
  by_cases h : other = name
  · simp [h]
  · have hbeq : (other == name) = false := by simpa using h
    rw [List.lookup_cons, hbeq, if_neg h]

/-- The table of a service, in the order of the names. -/
theorem standard_eq (deriver : Secret.Deriver) (source : Entropy σ) :
    standard deriver source =
      .ok ⟨[(derivateKeyName, .derivateKey), (deriveSecretName, .deriveSecret deriver source)]⟩ := by
  have hsecret : deriveSecretName ≠ "" := by decide
  have hkey : derivateKeyName ≠ "" := by decide
  have hne : derivateKeyName ≠ deriveSecretName := by decide
  have hlt : derivateKeyName < deriveSecretName := by decide
  have hfirst : empty.register deriveSecretName (.deriveSecret deriver source) =
      .ok ⟨[(deriveSecretName, .deriveSecret deriver source)]⟩ := by
    simp [register, contains, hsecret, empty, insertEntry, get?]
  rw [standard, hfirst]
  simp [bind, Except.bind, register, contains, get?, lookup_cons_eq, hkey, hne, hlt, insertEntry]

/-- What a service finds under a name. -/
theorem get?_standard {deriver : Secret.Deriver} {source : Entropy σ} {table : Table σ}
    (h : standard deriver source = .ok table) (name : String) :
    table.get? name =
      if name = derivateKeyName then some .derivateKey
      else if name = deriveSecretName then some (.deriveSecret deriver source)
      else none := by
  rw [standard_eq] at h
  cases h
  rw [get?, lookup_cons_eq, lookup_cons_eq, List.lookup_nil]

theorem get?_deriveSecretName {deriver : Secret.Deriver} {source : Entropy σ} {table : Table σ}
    (h : standard deriver source = .ok table) :
    table.get? deriveSecretName = some (.deriveSecret deriver source) := by
  have hne : deriveSecretName ≠ derivateKeyName := by decide
  rw [get?_standard h, if_neg hne, if_pos rfl]

/-- Every operation but that of fresh secrets leaves the entropy source alone. -/
theorem run_of_ne_deriveSecretName {deriver : Secret.Deriver} {source : Entropy σ}
    {table : Table σ} (h : standard deriver source = .ok table) {name : String}
    {operation : Operation σ} (hop : table.get? name = some operation)
    (hne : name ≠ deriveSecretName) (job : Job) (state : σ) :
    (operation.run job state).2 = state := by
  rw [get?_standard h, if_neg hne] at hop
  split at hop
  · cases hop
    rfl
  · cases hop

/-!
Registrations, one after the other. The first call that asks for a name gets it and keeps it, and
no call gets the empty name. A call that is refused leaves the table as it was, so the table tells
of the calls that were not: its names are those that were asked for, each once and in order.
-/

section Insertion

variable {entry : String × Operation σ} {entries : List (String × Operation σ)}

/-- Inserting puts one entry in and loses none. -/
theorem insertEntry_perm (entry : String × Operation σ) (entries : List (String × Operation σ)) :
    (insertEntry entry entries).Perm (entry :: entries) := by
  induction entries with
  | nil => exact .refl _
  | cons first rest ih =>
    rw [insertEntry]
    split
    · exact .refl _
    · exact (ih.cons first).trans (.swap entry first rest)

theorem mem_names_insertEntry {name : String} :
    name ∈ (insertEntry entry entries).map Prod.fst ↔
      name = entry.1 ∨ name ∈ entries.map Prod.fst := by
  rw [((insertEntry_perm entry entries).map Prod.fst).mem_iff, List.map_cons, List.mem_cons]

/-- A new name goes to its place in the order. -/
theorem pairwise_insertEntry (hordered : (entries.map Prod.fst).Pairwise (· < ·))
    (hnew : entry.1 ∉ entries.map Prod.fst) :
    ((insertEntry entry entries).map Prod.fst).Pairwise (· < ·) := by
  induction entries with
  | nil => simp [insertEntry]
  | cons first rest ih =>
    rw [List.map_cons, List.mem_cons, not_or] at hnew
    rw [List.map_cons, List.pairwise_cons] at hordered
    obtain ⟨hfirst, hrest⟩ := hordered
    rw [insertEntry]
    split
    case isTrue hlt =>
      simp only [List.map_cons, List.pairwise_cons, List.mem_cons]
      refine ⟨?_, hfirst, hrest⟩
      rintro name (rfl | hname)
      · exact hlt
      · exact String.lt_trans hlt (hfirst name hname)
    case isFalse hge =>
      have hgt : first.1 < entry.1 := by
        apply String.not_le.mp
        intro hle
        exact hnew.1 (String.le_antisymm hle (String.not_lt.mp hge))
      rw [List.map_cons, List.pairwise_cons]
      refine ⟨?_, ih hrest hnew.2⟩
      intro name hname
      cases mem_names_insertEntry.mp hname with
      | inl heq => rwa [heq]
      | inr hname => exact hfirst name hname

/-- A new name is looked up as what came with it, and all others as before. -/
theorem lookup_insertEntry (hnew : entry.1 ∉ entries.map Prod.fst) (name : String) :
    (insertEntry entry entries).lookup name =
      if name = entry.1 then some entry.2 else entries.lookup name := by
  induction entries with
  | nil => exact lookup_cons_eq entry.1 name entry.2 []
  | cons first rest ih =>
    rw [List.map_cons, List.mem_cons, not_or] at hnew
    rw [insertEntry]
    split
    · exact lookup_cons_eq entry.1 name entry.2 _
    · rw [lookup_cons_eq first.1 name first.2, ih hnew.2, lookup_cons_eq first.1 name first.2]
      by_cases hname : name = first.1
      · have hne : name ≠ entry.1 := by
          rw [hname]
          exact Ne.symm hnew.1
        rw [if_pos hname, if_pos hname, if_neg hne]
      · rw [if_neg hname, if_neg hname]

end Insertion

theorem contains_iff {table : Table σ} {name : String} :
    table.contains name = true ↔ name ∈ table.names := by
  simp [contains, get?, names]

/-- Among calls for one name the first one counts. -/
theorem lookup_concat (calls : List (String × Operation σ)) (call : String × Operation σ)
    (name : String) : (calls ++ [call]).lookup name =
      (calls.lookup name).or (if name = call.1 then some call.2 else none) := by
  rw [List.lookup_append, lookup_cons_eq call.1 name call.2, List.lookup_nil]

/-- What a call that asks for a name answers, and the table that it leaves. A call with a function
of the job is one with the operation that is made of it, `Operation.ofFunction`. -/
def enlist (table : Table σ) (call : String × Operation σ) : Except ServiceError Unit × Table σ :=
  match table.register call.1 call.2 with
  | .ok next => (.ok (), next)
  | .error e => (.error (.config e.reason), table)

/-- What some calls answer, one after the other, and the table that they leave. -/
def enlistAll (table : Table σ) :
    List (String × Operation σ) → List (Except ServiceError Unit) × Table σ
  | [] => ([], table)
  | call :: calls =>
    let (answer, next) := table.enlist call
    let (answers, last) := next.enlistAll calls
    (answer :: answers, last)

@[simp] theorem enlistAll_nil (table : Table σ) : table.enlistAll [] = ([], table) := rfl

@[simp] theorem enlistAll_cons (table : Table σ) (call : String × Operation σ)
    (calls : List (String × Operation σ)) :
    table.enlistAll (call :: calls) =
      ((table.enlist call).1 :: ((table.enlist call).2.enlistAll calls).1,
        ((table.enlist call).2.enlistAll calls).2) := rfl

theorem length_enlistAll (table : Table σ) (calls : List (String × Operation σ)) :
    (table.enlistAll calls).1.length = calls.length := by
  induction calls generalizing table with
  | nil => rfl
  | cons call calls ih => simp [ih]

def refusal (name : String) : String :=
  if name = "" then RegisterError.emptyName.reason else (RegisterError.duplicate name).reason

/-- All that can come of a call. -/
theorem enlist_cases (table : Table σ) (call : String × Operation σ) :
    (call.1 = "" ∨ call.1 ∈ table.names) ∧
        table.enlist call = (.error (.config (refusal call.1)), table) ∨
      (call.1 ≠ "" ∧ call.1 ∉ table.names) ∧
        table.enlist call = (.ok (), ⟨insertEntry call table.entries⟩) := by
  by_cases hempty : call.1 = ""
  · exact .inl ⟨.inl hempty, by simp [enlist, register, refusal, hempty]⟩
  · cases hcontains : table.contains call.1 with
    | true =>
      refine .inl ⟨.inr (contains_iff.mp hcontains), ?_⟩
      simp [enlist, register, refusal, hempty, hcontains]
    | false =>
      refine .inr ⟨⟨hempty, fun hmem => ?_⟩, by simp [enlist, register, hempty, hcontains]⟩
      rw [contains_iff.mpr hmem] at hcontains
      cases hcontains

/-- A table after some calls: in order, and with the first call for each name but the empty one. -/
structure Holds (table : Table σ) (calls : List (String × Operation σ)) : Prop where
  ordered : table.names.Pairwise (· < ·)
  first : ∀ name, table.get? name = if name = "" then none else calls.lookup name

namespace Holds

variable {table : Table σ} {calls : List (String × Operation σ)}

theorem empty : Holds (empty : Table σ) [] where
  ordered := .nil
  first name := by simp

theorem mem_names_iff (h : Holds table calls) {name : String} :
    name ∈ table.names ↔ name ≠ "" ∧ name ∈ calls.map Prod.fst := by
  rw [← contains_iff, contains, h.first]
  split
  case isTrue hempty => simp [hempty]
  case isFalse hne => simp [hne]

theorem get?_eq_some_iff (h : Holds table calls) {name : String} {operation : Operation σ} :
    table.get? name = some operation ↔ name ≠ "" ∧ ∃ earlier later,
      calls = earlier ++ (name, operation) :: later ∧ name ∉ earlier.map Prod.fst := by
  have hnone : ∀ earlier : List (String × Operation σ),
      (∀ p ∈ earlier, (name != p.1) = true) ↔ name ∉ earlier.map Prod.fst := by
    intro earlier
    rw [← List.lookup_eq_none_iff, ← Option.not_isSome_iff_eq_none]
    simp
  rw [h.first]
  split
  case isTrue hempty => simp [hempty]
  case isFalse hne =>
    simp only [List.lookup_eq_some_iff, hnone, ne_eq, hne, not_false_eq_true, true_and]

/-- A table has one entry for each name that was asked for, but for the empty one. -/
theorem size_eq (h : Holds table calls) :
    table.size = ((calls.map Prod.fst).toFinset.erase "").card := by
  have hnodup : table.names.Nodup := h.ordered.imp fun hlt => by
    rintro rfl
    exact String.lt_irrefl _ hlt
  have hnames : table.names.toFinset = (calls.map Prod.fst).toFinset.erase "" := by
    ext name
    rw [List.mem_toFinset, h.mem_names_iff, Finset.mem_erase, List.mem_toFinset]
  rw [← hnames, List.toFinset_card_of_nodup hnodup, length_names]

/-- One more call. -/
theorem enlist (h : Holds table calls) (call : String × Operation σ) :
    Holds (table.enlist call).2 (calls ++ [call]) := by
  obtain ⟨hrefused, hcall⟩ | ⟨⟨hne, hnew⟩, hcall⟩ := table.enlist_cases call
  · -- A call for a name that is taken stands behind the first call for it.
    rw [hcall]
    refine ⟨h.ordered, fun name => ?_⟩
    rw [h.first, lookup_concat]
    by_cases hempty : name = ""
    · rw [if_pos hempty, if_pos hempty]
    · rw [if_neg hempty, if_neg hempty]
      by_cases hname : name = call.1
      · rw [← hname] at hrefused
        have hmem := (h.mem_names_iff.mp (hrefused.resolve_left hempty)).2
        rw [Option.or_of_isSome (by simpa using hmem)]
      · rw [if_neg hname, Option.or_none]
  · rw [hcall]
    refine ⟨pairwise_insertEntry h.ordered hnew, fun name => ?_⟩
    rw [get?, lookup_insertEntry hnew, lookup_concat]
    by_cases hname : name = call.1
    · have hnone : calls.lookup call.1 = none := by
        rw [← Option.not_isSome_iff_eq_none]
        intro hsome
        exact hnew (h.mem_names_iff.mpr ⟨hne, by simpa using hsome⟩)
      rw [hname, if_pos rfl, if_neg hne, hnone, Option.none_or, if_pos rfl]
    · rw [if_neg hname, if_neg hname, Option.or_none]
      exact h.first name

/-- Any number of calls more. -/
theorem enlistAll (h : Holds table calls) (more : List (String × Operation σ)) :
    Holds (table.enlistAll more).2 (calls ++ more) := by
  induction more generalizing table calls with
  | nil => rwa [List.append_nil]
  | cons call more ih =>
    have hmore := ih (h.enlist call)
    rwa [List.append_assoc] at hmore

end Holds

/-- Whatever is asked for, the table holds the first call for each name. -/
theorem holds_enlistAll (calls : List (String × Operation σ)) :
    Holds (empty.enlistAll calls).2 calls := Holds.empty.enlistAll calls

/-- The call at a place among others is made on the table that those before it leave. -/
theorem enlistAll_at (table : Table σ) {calls : List (String × Operation σ)} {k : Nat}
    {call : String × Operation σ} (h : calls[k]? = some call) :
    (table.enlistAll calls).1[k]? = some ((table.enlistAll (calls.take k)).2.enlist call).1 ∧
      (table.enlistAll (calls.take (k + 1))).2 =
        ((table.enlistAll (calls.take k)).2.enlist call).2 := by
  induction calls generalizing table k with
  | nil => cases h
  | cons first rest ih =>
    cases k with
    | zero =>
      cases h
      simp
    | succ k => exact ih _ h

section Answers

variable {calls : List (String × Operation σ)} {k : Nat} {name : String} {operation : Operation σ}

/-- A call gets its name if there is one and no earlier call asked for it. -/
theorem enlistAll_eq_ok_iff (h : calls[k]? = some (name, operation)) :
    ((empty : Table σ).enlistAll calls).1[k]? = some (.ok ()) ↔
      name ≠ "" ∧ name ∉ (calls.take k).map Prod.fst := by
  rw [(enlistAll_at empty h).1]
  obtain ⟨hrefused, hcall⟩ | ⟨hnew, hcall⟩ :=
    (empty.enlistAll (calls.take k)).2.enlist_cases (name, operation)
  · rw [(holds_enlistAll _).mem_names_iff] at hrefused
    simp only [hcall, Option.some.injEq, reduceCtorEq, false_iff, not_and, not_not]
    exact fun hne => (hrefused.resolve_left hne).2
  · rw [(holds_enlistAll _).mem_names_iff] at hnew
    simp only [hcall, true_iff]
    exact ⟨hnew.1, fun hmem => hnew.2 ⟨hnew.1, hmem⟩⟩

/-- A call that is refused is told so by its name, and changes nothing. -/
theorem of_enlistAll_eq_error {e : ServiceError} (h : calls[k]? = some (name, operation))
    (he : ((empty : Table σ).enlistAll calls).1[k]? = some (.error e)) :
    e = .config (refusal name) ∧ ((empty : Table σ).enlistAll (calls.take (k + 1))).2 =
      ((empty : Table σ).enlistAll (calls.take k)).2 := by
  obtain ⟨hanswer, hnext⟩ := enlistAll_at empty h
  rw [hanswer] at he
  rw [hnext]
  obtain ⟨-, hcall⟩ | ⟨-, hcall⟩ :=
    (empty.enlistAll (calls.take k)).2.enlist_cases (name, operation)
  · rw [hcall] at he ⊢
    cases he
    exact ⟨rfl, rfl⟩
  · rw [hcall] at he
    cases he

/-- Of the calls for a name, the first got it. -/
theorem exists_enlisted (hne : name ≠ "") (hmem : name ∈ (calls.take k).map Prod.fst) :
    ∃ j < k, ∃ other, calls[j]? = some (name, other) ∧
      ((empty : Table σ).enlistAll calls).1[j]? = some (.ok ()) := by
  have hholds := holds_enlistAll (calls.take k)
  have hfound := contains_iff.mpr (hholds.mem_names_iff.mpr ⟨hne, hmem⟩)
  obtain ⟨other, hother⟩ := Option.isSome_iff_exists.mp hfound
  obtain ⟨-, earlier, later, hcalls, hnew⟩ := hholds.get?_eq_some_iff.mp hother
  have hlt : earlier.length < k := by
    have hlength := congrArg List.length hcalls
    rw [List.length_take, List.length_append, List.length_cons] at hlength
    omega
  have htake : calls.take earlier.length = earlier := by
    have hfront := congrArg (List.take earlier.length) hcalls
    rwa [List.take_take, Nat.min_eq_left (by omega), List.take_left] at hfront
  have hat : calls[earlier.length]? = some (name, other) := by
    rw [← List.getElem?_take_of_lt hlt, hcalls]
    simp
  refine ⟨earlier.length, hlt, other, hat, ?_⟩
  rw [enlistAll_eq_ok_iff hat, htake]
  exact ⟨hne, hnew⟩

/-- A call is refused just if there is no name or an earlier call got it. -/
theorem exists_enlistAll_error_iff (h : calls[k]? = some (name, operation)) :
    (∃ e, ((empty : Table σ).enlistAll calls).1[k]? = some (.error e)) ↔ name = "" ∨
      ∃ j < k, ∃ other, calls[j]? = some (name, other) ∧
        ((empty : Table σ).enlistAll calls).1[j]? = some (.ok ()) := by
  have hok := enlistAll_eq_ok_iff h
  constructor
  · rintro ⟨e, he⟩
    rw [he] at hok
    by_cases hempty : name = ""
    · exact .inl hempty
    · refine .inr (exists_enlisted hempty ?_)
      by_contra hnew
      cases hok.mpr ⟨hempty, hnew⟩
  · intro hrefused
    obtain ⟨answer, hanswer⟩ : ∃ answer, ((empty : Table σ).enlistAll calls).1[k]? = some answer :=
      ⟨_, (enlistAll_at empty h).1⟩
    rw [hanswer] at hok ⊢
    cases answer with
    | error e => exact ⟨e, rfl⟩
    | ok =>
      obtain ⟨hne, hnew⟩ := hok.mp rfl
      obtain hempty | ⟨j, hlt, other, hcall, -⟩ := hrefused
      · exact absurd hempty hne
      · have hearlier : (calls.take k)[j]? = some (name, other) := by
          rw [List.getElem?_take_of_lt hlt, hcall]
        exact absurd (List.mem_map.mpr ⟨_, List.mem_of_getElem? hearlier, rfl⟩) hnew

end Answers

/-- Calls that ask for names, each for an operation or a function. A call is refused just if its
name is empty or an earlier call got it; what it is told is made of the name, and the table stays as
it was. After all calls the names in the table are those that were asked for but the empty one, each
once and in order, and what is found under a name is the operation of the first call for it. -/
theorem table_of_calls (calls : List (String × Operation σ)) :
    let answers := ((empty : Table σ).enlistAll calls).1
    let table := ((empty : Table σ).enlistAll calls).2
    (∀ k name operation, calls[k]? = some (name, operation) →
      ((∃ e, answers[k]? = some (.error e)) ↔ name = "" ∨
        ∃ j < k, ∃ other, calls[j]? = some (name, other) ∧ answers[j]? = some (.ok ())) ∧
      ∀ e, answers[k]? = some (.error e) →
        e = .config (if name = "" then "operation name must not be empty"
          else "operation '" ++ name ++ "' is already registered") ∧
        ((empty : Table σ).enlistAll (calls.take (k + 1))).2 =
          ((empty : Table σ).enlistAll (calls.take k)).2) ∧
    answers.length = calls.length ∧
    table.names.Pairwise (· < ·) ∧
    (∀ name, name ∈ table.names ↔ name ≠ "" ∧ name ∈ calls.map Prod.fst) ∧
    table.size = ((calls.map Prod.fst).toFinset.erase "").card ∧
    (∀ name, table.contains name = true ↔ name ≠ "" ∧ name ∈ calls.map Prod.fst) ∧
    (∀ name, (∃ operation, table.get? name = some operation) ↔
      name ≠ "" ∧ name ∈ calls.map Prod.fst) ∧
    ∀ name operation, table.get? name = some operation ↔ name ≠ "" ∧ ∃ earlier later,
      calls = earlier ++ (name, operation) :: later ∧ name ∉ earlier.map Prod.fst := by
  intro answers table
  have hholds : table.Holds calls := holds_enlistAll calls
  have hfound : ∀ name, table.contains name = true ↔ name ≠ "" ∧ name ∈ calls.map Prod.fst :=
    fun name => contains_iff.trans hholds.mem_names_iff
  refine ⟨?_, length_enlistAll empty calls, hholds.ordered, fun name => hholds.mem_names_iff,
    hholds.size_eq, hfound, fun name => ?_, fun name operation => hholds.get?_eq_some_iff⟩
  · intro k name operation hcall
    exact ⟨exists_enlistAll_error_iff hcall, fun e he => of_enlistAll_eq_error hcall he⟩
  · rw [← hfound, contains, Option.isSome_iff_exists]

/-- A name that is asked for twice with the empty name between. The second call does not get it, and
what is found under the name is the operation of the first. -/
theorem table_of_repeated_name :
    ∃ (answers : List (Except ServiceError Unit)) (table : Table Unit),
      empty.enlistAll [("b", .const [1]), ("", .const [2]), ("a", .echo), ("b", .const [3])] =
        (answers, table) ∧
      answers[1]? = some (.error (.config "operation name must not be empty")) ∧
      answers[3]? = some (.error (.config "operation 'b' is already registered")) ∧
      table.size = 2 ∧ table.get? "" = none ∧ table.get? "b" = some (.const [1]) := by
  let calls : List (String × Operation Unit) :=
    [("b", .const [1]), ("", .const [2]), ("a", .echo), ("b", .const [3])]
  obtain ⟨hcalls, -, -, -, hsize, -, hfound, hget⟩ := table_of_calls calls
  refine ⟨(empty.enlistAll calls).1, (empty.enlistAll calls).2, rfl, ?_, ?_, hsize, ?_,
    (hget "b" _).mpr ⟨by decide, [], _, rfl, by simp⟩⟩
  · obtain ⟨hrefused, htold⟩ := hcalls 1 "" _ rfl
    obtain ⟨e, he⟩ := hrefused.mpr (.inl rfl)
    obtain ⟨htext, -⟩ := htold e he
    rw [if_pos rfl] at htext
    rw [he, htext]
  · obtain ⟨hrefused, htold⟩ := hcalls 3 "b" _ rfl
    obtain ⟨e, he⟩ := hrefused.mpr (.inr ⟨0, by decide, _, rfl, rfl⟩)
    obtain ⟨htext, -⟩ := htold e he
    rw [if_neg (by decide)] at htext
    rw [he, htext]
    rfl
  · apply Option.eq_none_iff_forall_ne_some.mpr
    intro operation hsome
    exact ((hfound "").mp ⟨operation, hsome⟩).1 rfl

end DerivationPool.Table
