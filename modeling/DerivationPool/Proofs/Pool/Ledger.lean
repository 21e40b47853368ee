import DerivationPool.Proofs.Pool.Account
import Mathlib.Data.List.Perm.Basic

/-!
The ledger of a pool: the jobs it has, each with its standing and with an account
that fits the standing, and the calls whose jobs it no longer has. A move of the pool
takes in one job, moves one on, or lets one or more go; each of these keeps the
ledger in order, and so does every run.
-/
namespace DerivationPool.Pool

variable {σ : Type}

theorem getElem?_concat {α : Type} {l : List α} {x y : α} {i : Nat}
    (h : (l ++ [x])[i]? = some y) : l[i]? = some y ∨ i = l.length ∧ x = y := by
  obtain hlt | rfl | hgt := Nat.lt_trichotomy i l.length
  · rw [List.getElem?_append_left hlt] at h
    exact .inl h
  · exact .inr ⟨rfl, by simpa using h⟩
  · rw [List.getElem?_eq_none (by simp; omega)] at h
    cases h

/-- The number of the job that the next call of a registered operation gets. -/
def jobNumber (table : Table σ) (asked : List (String × Bytes)) : UInt64 :=
  UInt64.ofNat (asked.countP fun request => table.contains request.1) + 1

theorem jobNumber_append_unknown (table : Table σ) (asked : List (String × Bytes)) {name : String}
    (data : Bytes) (hop : table.get? name = none) :
    jobNumber table (asked ++ [(name, data)]) = jobNumber table asked := by
  have hnot : table.contains name = false := by simp [Table.contains, hop]
  simp [jobNumber, List.countP_append, hnot]

theorem jobNumber_append (table : Table σ) (asked : List (String × Bytes)) {name : String}
    {operation : Operation σ} (data : Bytes) (hop : table.get? name = some operation) :
    jobNumber table (asked ++ [(name, data)]) = jobNumber table asked + 1 := by
  have hin : table.contains name = true := by simp [Table.contains, hop]
  simp [jobNumber, List.countP_append, hin]

/-- The job of a call is the one that was asked for. -/
structure Filed (table : Table σ) (asked : List (String × Bytes)) (d : Dispatch σ) : Prop where
  asked_for : ∃ name, asked[d.call]? = some (name, d.job.data) ∧ table.get? name = some d.operation
  id_eq : d.job.id = jobNumber table (asked.take d.call)

theorem Filed.lt {table : Table σ} {asked : List (String × Bytes)} {d : Dispatch σ}
    (h : Filed table asked d) : d.call < asked.length := by
  obtain ⟨name, hget, -⟩ := h.asked_for
  exact (List.getElem?_eq_some_iff.mp hget).1

theorem Filed.append {table : Table σ} {asked : List (String × Bytes)} {d : Dispatch σ}
    (h : Filed table asked d) (more : List (String × Bytes)) : Filed table (asked ++ more) d := by
  have hlt := h.lt
  obtain ⟨name, hget, hop⟩ := h.asked_for
  refine ⟨⟨name, ?_, hop⟩, ?_⟩
  · rw [List.getElem?_append_left hlt]
    exact hget
  · rw [List.take_append_of_le_length (Nat.le_of_lt hlt)]
    exact h.id_eq

def filed (table : Table σ) (asked : List (String × Bytes)) (call : Nat) (operation : Operation σ)
    (data : Bytes) : Dispatch σ :=
  ⟨call, operation, ⟨jobNumber table (asked.take call), data⟩⟩

/-- The job of a call is determined by what was asked for. -/
theorem Filed.eq_filed {table : Table σ} {asked : List (String × Bytes)} {d : Dispatch σ}
    (h : Filed table asked d) {name : String} {data : Bytes} {operation : Operation σ}
    (hget : asked[d.call]? = some (name, data)) (hop : table.get? name = some operation) :
    d = filed table asked d.call operation data := by
  obtain ⟨call, operation', ⟨id, data'⟩⟩ := d
  obtain ⟨⟨name', hget', hop'⟩, hid⟩ := h
  rw [hget] at hget'
  cases hget'
  rw [hop] at hop'
  cases hop'
  rw [filed, ← hid]

abbrev Position (σ : Type) := Dispatch σ × Standing

/-- The accounts of all calls, where the pool has the jobs of these positions. -/
structure Ledger (table : Table σ) (asked : List (String × Bytes)) (departed : List Nat)
    (stopping : Bool) (positions : List (Position σ)) (notices : List Notice) : Prop where
  distinct : (positions.map fun p => p.1.call).Nodup
  present : ∀ p ∈ positions, Filed table asked p.1 ∧
    Kept departed stopping p.1 p.2 (account notices p.1.call)
  /-- A call of a registered operation that has no job in the pool any more is over. -/
  absent : ∀ call name data operation, asked[call]? = some (name, data) →
    table.get? name = some operation → call ∉ positions.map (fun p => p.1.call) →
    ∃ d : Dispatch σ, d.call = call ∧ Filed table asked d ∧
      Kept departed stopping d .over (account notices call)
  unknown : ∀ call name data, asked[call]? = some (name, data) → table.get? name = none →
    account notices call = { answers := [.error (.unknownOperation name)] }
  unmade : ∀ call, asked.length ≤ call → account notices call = {}

namespace Ledger

variable {table : Table σ} {asked : List (String × Bytes)} {departed : List Nat}
  {stopping : Bool} {positions : List (Position σ)} {notices : List Notice}

theorem initial (table : Table σ) (departed : List Nat) (stopping : Bool) :
    Ledger table [] departed stopping [] [] where
  distinct := .nil
  present := by simp
  absent := by simp
  unknown := by simp
  unmade := by simp

/-- Every call of a registered operation has a job, and its account fits where the job stands. -/
theorem standing (h : Ledger table asked departed stopping positions notices) {call : Nat}
    {name : String} {data : Bytes} {operation : Operation σ}
    (hget : asked[call]? = some (name, data)) (hop : table.get? name = some operation) :
    ∃ standing, Kept departed stopping (filed table asked call operation data) standing
        (account notices call) ∧
      ((filed table asked call operation data, standing) ∈ positions ∨ standing = .over) := by
  by_cases hin : call ∈ positions.map fun p => p.1.call
  · obtain ⟨⟨d, standing⟩, hp, rfl⟩ := List.mem_map.mp hin
    obtain ⟨hfiled, kept⟩ := h.present _ hp
    rw [← hfiled.eq_filed hget hop]
    exact ⟨standing, kept, .inl hp⟩
  · obtain ⟨d, rfl, hfiled, kept⟩ := h.absent call name data operation hget hop hin
    rw [← hfiled.eq_filed hget hop]
    exact ⟨.over, kept, .inr rfl⟩

/-- The order of the positions does not matter. -/
theorem perm (h : Ledger table asked departed stopping positions notices)
    {positions' : List (Position σ)} (hperm : positions.Perm positions') :
    Ledger table asked departed stopping positions' notices where
  distinct := (hperm.map _).nodup_iff.mp h.distinct
  present p hp := h.present p (hperm.mem_iff.mpr hp)
  absent call name data operation hget hop hcall :=
    h.absent call name data operation hget hop fun hmem => hcall ((hperm.map _).mem_iff.mp hmem)
  unknown := h.unknown
  unmade := h.unmade

theorem mono (h : Ledger table asked departed stopping positions notices) {departed' : List Nat}
    {stopping' : Bool} (hdeparted : departed ⊆ departed')
    (hstopping : stopping = true → stopping' = true) :
    Ledger table asked departed' stopping' positions notices where
  distinct := h.distinct
  present p hp := (h.present p hp).imp_right fun kept => kept.mono hdeparted hstopping
  absent call name data operation hget hop hcall := by
    obtain ⟨d, hd, filed, kept⟩ := h.absent call name data operation hget hop hcall
    exact ⟨d, hd, filed, kept.mono hdeparted hstopping⟩
  unknown := h.unknown
  unmade := h.unmade

variable {d : Dispatch σ} {standing : Standing} {rest : List (Position σ)} {new : List Notice}

theorem rest_ne (h : Ledger table asked departed stopping ((d, standing) :: rest) notices) :
    ∀ p ∈ rest, p.1.call ≠ d.call := by
  intro p hp heq
  have hnodup := h.distinct
  rw [List.map_cons, List.nodup_cons] at hnodup
  exact hnodup.1 (heq ▸ List.mem_map_of_mem hp)

theorem filed_head (h : Ledger table asked departed stopping ((d, standing) :: rest) notices) :
    Filed table asked d := (h.present _ List.mem_cons_self).1

theorem kept (h : Ledger table asked departed stopping ((d, standing) :: rest) notices) :
    Kept departed stopping d standing (account notices d.call) := (h.present _ List.mem_cons_self).2

/-- Notices about a job tell nothing of a call that is not registered, -/
theorem unknown_append (h : Ledger table asked departed stopping ((d, standing) :: rest) notices)
    (hnew : ∀ n ∈ new, n.call = d.call) (call : Nat) (name : String) (data : Bytes)
    (hget : asked[call]? = some (name, data)) (hop : table.get? name = none) :
    account (notices ++ new) call = { answers := [.error (.unknownOperation name)] } := by
  have hne : call ≠ d.call := by
    intro heq
    obtain ⟨name', hget', hop'⟩ := h.filed_head.asked_for
    rw [← heq, hget] at hget'
    cases hget'
    rw [hop] at hop'
    cases hop'
  rw [account_append_other hnew hne]
  exact h.unknown call name data hget hop

/-- nor of a call that is yet to be made. -/
theorem unmade_append (h : Ledger table asked departed stopping ((d, standing) :: rest) notices)
    (hnew : ∀ n ∈ new, n.call = d.call) (call : Nat) (hlen : asked.length ≤ call) :
    account (notices ++ new) call = {} := by
  have hlt := h.filed_head.lt
  rw [account_append_other hnew (by omega)]
  exact h.unmade call hlen

/-- A job moves on. -/
theorem advance {standing' : Standing}
    (h : Ledger table asked departed stopping ((d, standing) :: rest) notices)
    (hnew : ∀ n ∈ new, n.call = d.call)
    (hkept : Kept departed stopping d standing' (new.foldl Account.note (account notices d.call))) :
    Ledger table asked departed stopping ((d, standing') :: rest) (notices ++ new) where
  distinct := h.distinct
  present := by
    intro p hp
    obtain rfl | hp := List.mem_cons.mp hp
    · rw [account_append_own hnew]
      exact ⟨h.filed_head, hkept⟩
    · rw [account_append_other hnew (h.rest_ne p hp)]
      exact h.present p (List.mem_cons_of_mem _ hp)
  absent call name data operation hget hop hcall := by
    have hne : call ≠ d.call := fun heq => hcall (by simp [heq])
    rw [account_append_other hnew hne]
    exact h.absent call name data operation hget hop hcall
  unknown := h.unknown_append hnew
  unmade := h.unmade_append hnew

/-- A job leaves the pool. -/
theorem retire (h : Ledger table asked departed stopping ((d, standing) :: rest) notices)
    (hnew : ∀ n ∈ new, n.call = d.call)
    (hkept : Kept departed stopping d .over (new.foldl Account.note (account notices d.call))) :
    Ledger table asked departed stopping rest (notices ++ new) where
  distinct := (List.nodup_cons.mp h.distinct).2
  present := by
    intro p hp
    rw [account_append_other hnew (h.rest_ne p hp)]
    exact h.present p (List.mem_cons_of_mem _ hp)
  absent call name data operation hget hop hcall := by
    by_cases heq : call = d.call
    · subst heq
      rw [account_append_own hnew]
      exact ⟨d, rfl, h.filed_head, hkept⟩
    · rw [account_append_other hnew heq]
      exact h.absent call name data operation hget hop (by simpa [heq] using hcall)
  unknown := h.unknown_append hnew
  unmade := h.unmade_append hnew

/-- Jobs leave the pool together, each with its own notices. -/
theorem retire_all (news : Position σ → List Notice) {leaving : List (Position σ)}
    (h : Ledger table asked departed stopping (leaving ++ rest) notices)
    (hnews : ∀ p ∈ leaving, ∀ n ∈ news p, n.call = p.1.call)
    (hkept : ∀ p ∈ leaving, ∀ a, Kept departed stopping p.1 p.2 a →
      Kept departed stopping p.1 .over ((news p).foldl Account.note a)) :
    Ledger table asked departed stopping rest (notices ++ leaving.flatMap news) := by
  induction leaving generalizing notices with
  | nil => simpa using h
  | cons p leaving ih =>
    have hrest := Ledger.retire h (hnews p List.mem_cons_self)
      (hkept p List.mem_cons_self _ h.kept)
    have hall := ih hrest (fun q hq => hnews q (List.mem_cons_of_mem _ hq))
      (fun q hq => hkept q (List.mem_cons_of_mem _ hq))
    simpa using hall

/-- A call of an operation that is not registered is made and answered. -/
theorem reject (h : Ledger table asked departed stopping positions notices) {name : String}
    (data : Bytes) (hop : table.get? name = none) :
    Ledger table (asked ++ [(name, data)]) departed stopping positions
      (notices ++ [.answered asked.length (.error (.unknownOperation name))]) := by
  have hnew : ∀ n ∈ [Notice.answered asked.length (.error (.unknownOperation name))],
      n.call = asked.length := by simp [Notice.call]
  refine ⟨h.distinct, ?_, ?_, ?_, ?_⟩
  · intro p hp
    obtain ⟨filed, kept⟩ := h.present p hp
    rw [account_append_other hnew (Nat.ne_of_lt filed.lt)]
    exact ⟨filed.append _, kept⟩
  · intro call name' data' operation hget hop' hcall
    obtain hget | ⟨-, heq⟩ := getElem?_concat hget
    · have hlt := (List.getElem?_eq_some_iff.mp hget).1
      rw [account_append_other hnew (Nat.ne_of_lt hlt)]
      obtain ⟨d, hd, filed, kept⟩ := h.absent call name' data' operation hget hop' hcall
      exact ⟨d, hd, filed.append _, kept⟩
    · cases heq
      rw [hop] at hop'
      cases hop'
  · intro call name' data' hget hop'
    obtain hget | ⟨rfl, heq⟩ := getElem?_concat hget
    · have hlt := (List.getElem?_eq_some_iff.mp hget).1
      rw [account_append_other hnew (Nat.ne_of_lt hlt)]
      exact h.unknown call name' data' hget hop'
    · cases heq
      rw [account_append_own hnew, h.unmade _ (Nat.le_refl _)]
      rfl
  · intro call hlen
    simp only [List.length_append, List.length_singleton] at hlen
    rw [account_append_other hnew (by omega)]
    exact h.unmade call (by omega)

/-- A call of a registered operation is made and its job taken in. -/
theorem accept (h : Ledger table asked departed stopping positions notices) {name : String}
    {operation : Operation σ} (data : Bytes) (hop : table.get? name = some operation) :
    Ledger table (asked ++ [(name, data)]) departed stopping
      ((⟨asked.length, operation, ⟨jobNumber table asked, data⟩⟩, .waiting) :: positions)
      notices := by
  refine ⟨?_, ?_, ?_, ?_, ?_⟩
  · refine List.nodup_cons.mpr ⟨?_, h.distinct⟩
    intro hmem
    obtain ⟨p, hp, heq⟩ := List.mem_map.mp hmem
    exact Nat.ne_of_lt (h.present p hp).1.lt heq
  · intro p hp
    obtain rfl | hp := List.mem_cons.mp hp
    · have hnone := h.unmade asked.length (Nat.le_refl _)
      exact ⟨⟨⟨name, by simp, hop⟩, by simp⟩, hnone ▸ .waiting⟩
    · obtain ⟨filed, kept⟩ := h.present p hp
      exact ⟨filed.append _, kept⟩
  · intro call name' data' operation' hget hop' hcall
    simp only [List.map_cons, List.mem_cons, not_or] at hcall
    obtain hget | ⟨heq, -⟩ := getElem?_concat hget
    · obtain ⟨d, hd, filed, kept⟩ := h.absent call name' data' operation' hget hop' hcall.2
      exact ⟨d, hd, filed.append _, kept⟩
    · exact absurd heq hcall.1
  · intro call name' data' hget hop'
    obtain hget | ⟨-, heq⟩ := getElem?_concat hget
    · exact h.unknown call name' data' hget hop'
    · cases heq
      rw [hop] at hop'
      cases hop'
  · intro call hlen
    simp only [List.length_append, List.length_singleton] at hlen
    exact h.unmade call (by omega)

end Ledger

end DerivationPool.Pool
