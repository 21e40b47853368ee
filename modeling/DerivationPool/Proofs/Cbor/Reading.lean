import DerivationPool.Cbor.Item
import DerivationPool.Cbor.Values
import DerivationPool.Proofs.Text.Length

/-!
Writing and reading back. A number in a head may take more room than it needs, everywhere and
independently; nothing else about an item is free, since lengths are definite and entries keep
their order. The one form that `Item.encode` chooses is among the ways to write it, and what is
written in any of them is read back, and passed over, exactly.
-/
namespace DerivationPool.Cbor

/-- The bytes of a head that carries a number: in the first byte, or behind it at any width that
can hold it. -/
inductive WrittenHead (major n : Nat) : Bytes → Prop where
  | short (hn : n < 24) : WrittenHead major n [UInt8.ofNat (32 * major + n)]
  | wide (minor width : Nat) (hwidth : (minor, width) ∈ [(24, 1), (25, 2), (26, 4), (27, 8)])
      (hn : n < Nat.pow 256 width) :
      WrittenHead major n (UInt8.ofNat (32 * major + minor) :: Bytes.ofNat width n)

/-- The shortest head is one of them. -/
theorem written_encodeHead (major : Nat) {n : Nat} (hn : n < 1 <<< 64) :
    WrittenHead major n (encodeHead major n) := by
  unfold encodeHead minorOf argumentSize
  by_cases h24 : n < 24
  · simp only [h24, if_true]
    exact .short h24
  by_cases h1 : n < 256
  · simp only [h24, h1, if_true, if_false]
    exact .wide _ _ (by decide) h1
  by_cases h2 : n < 65536
  · simp only [h24, h1, h2, if_true, if_false]
    exact .wide _ _ (by decide) h2
  by_cases h4 : n < 1 <<< 32
  · simp only [h24, h1, h2, h4, if_true, if_false]
    exact .wide _ _ (by decide) h4
  · simp only [h24, h1, h2, h4, if_false]
    exact .wide _ _ (by decide) hn

mutual

/-- The bytes are a way to write the item. -/
inductive Written : Item → Bytes → Prop where
  | unsigned {n : Nat} {head : Bytes} (hhead : WrittenHead 0 n head) : Written (.unsigned n) head
  | negative {n : Nat} {head : Bytes} (hhead : WrittenHead 1 n head) : Written (.negative n) head
  | bytes {bytes head : Bytes} (hhead : WrittenHead 2 bytes.length head) :
      Written (.bytes bytes) (head ++ bytes)
  | text {text : String} {head : Bytes} (hhead : WrittenHead 3 (Text.encode text).length head) :
      Written (.text text) (head ++ Text.encode text)
  | array {items : List Item} {head content : Bytes} (hhead : WrittenHead 4 items.length head)
      (hitems : WrittenItems items content) : Written (.array items) (head ++ content)
  | map {entries : List (Item × Item)} {head content : Bytes}
      (hhead : WrittenHead 5 entries.length head) (hentries : WrittenEntries entries content) :
      Written (.map entries) (head ++ content)
  | bool (value : Bool) : Written (.bool value) [if value then 0xf5 else 0xf4]
  | null : Written .null [0xf6]
  | float (bits : FloatBits) : Written (.float bits) bits.encode

inductive WrittenItems : List Item → Bytes → Prop where
  | nil : WrittenItems [] []
  | cons {item : Item} {items : List Item} {first rest : Bytes} (hitem : Written item first)
      (hitems : WrittenItems items rest) : WrittenItems (item :: items) (first ++ rest)

inductive WrittenEntries : List (Item × Item) → Bytes → Prop where
  | nil : WrittenEntries [] []
  | cons {key value : Item} {entries : List (Item × Item)} {first second rest : Bytes}
      (hkey : Written key first) (hvalue : Written value second)
      (hentries : WrittenEntries entries rest) :
      WrittenEntries ((key, value) :: entries) (first ++ second ++ rest)

end

mutual

/-- How many containers are open at a time inside an item, itself included. -/
def Item.depth : Item → Nat
  | .array items => depthOfItems items + 1
  | .map entries => depthOfEntries entries + 1
  | .unsigned _ | .negative _ | .bytes _ | .text _ | .bool _ | .null | .float _ => 0

def depthOfItems : List Item → Nat
  | [] => 0
  | item :: items => max item.depth (depthOfItems items)

def depthOfEntries : List (Item × Item) → Nat
  | [] => 0
  | (key, value) :: entries => max (max key.depth value.depth) (depthOfEntries entries)

end

/-!
Reading what was written. `Reads` says of some bytes that a reading takes them, and
no more, from the front of any input, and what value it gives. Readings in a row take
the bytes in a row; from this the round trip of every item is put together, head by
head and string by string. The offset of the bytes is at hand because heads are
reported with the place they start at.
-/

variable {α β : Type}

/-- No item is written as nothing. -/
theorem Item.length_encode_pos (item : Item) : 0 < item.encode.length := by
  cases item with
  | unsigned n | negative n =>
    rw [encode, length_encodeHead]
    exact headSize_pos n
  | bytes | text | array | map =>
    rw [encode, List.length_append, length_encodeHead]
    exact Nat.lt_of_lt_of_le (headSize_pos _) (Nat.le_add_right _ _)
  | bool | null => simp [encode]
  | float bits => cases bits <;> simp [encode, FloatBits.encode]

/-- A reader that has come to an offset and has these bytes before it. -/
def readerAt (offset : Nat) (rest : Bytes) : Reader := { Reader.ofBytes rest with offset }

theorem take?_readerAt (start : Nat) (bytes tail : Bytes) :
    (readerAt start (bytes ++ tail)).take? bytes.length =
      some (bytes, readerAt (start + bytes.length) tail) := by
  simp [Reader.take?, readerAt, Reader.ofBytes]

/-- From the front of any input at this offset, a reading takes just these bytes and gives the
value. -/
def Reads (start : Nat) (bytes : Bytes) (read : Read α) (value : α) : Prop :=
  ∀ tail, read (readerAt start (bytes ++ tail)) =
    .ok (value, readerAt (start + bytes.length) tail)

/-- From the front of any input that begins with these bytes, a reading fails. -/
def Refuses (start : Nat) (bytes : Bytes) (read : Read α) (e : Error) : Prop :=
  ∀ tail, read (readerAt start (bytes ++ tail)) = .error e

namespace Refuses

variable {start : Nat} {bytes first : Bytes} {read : Read α} {e : Error}

theorem bind {next : α → Read β} (h : Refuses start bytes read e) :
    Refuses start bytes (read >>= next) e := by
  intro tail
  simp only [Bind.bind, StateT.bind, h tail, Except.bind]

theorem append (h : Refuses start first read e) (second : Bytes) :
    Refuses start (first ++ second) read e := by
  intro tail
  rw [List.append_assoc]
  exact h (second ++ tail)

end Refuses

namespace Reads

variable {start : Nat} {bytes first second : Bytes} {read : Read α} {value : α}

theorem pure (start : Nat) (value : α) : Reads start [] (Pure.pure value) value :=
  fun _ => rfl

/-- A reading whose bytes are at the front hands what is behind them to the next one. -/
theorem run_bind (hfirst : Reads start first read value) (next : α → Read β) (rest : Bytes) :
    (read >>= next) (readerAt start (first ++ rest)) =
      next value (readerAt (start + first.length) rest) := by
  simp only [Bind.bind, StateT.bind, hfirst rest, Except.bind]

/-- Readings in a row take bytes in a row, the second from where the first has ended. -/
theorem bind {next : α → Read β} {result : β} (hfirst : Reads start first read value)
    (hsecond : Reads (start + first.length) second (next value) result) :
    Reads start (first ++ second) (read >>= next) result := by
  intro tail
  rw [List.append_assoc, hfirst.run_bind, hsecond tail, List.length_append, Nat.add_assoc]

/-- A reading that is followed by one that fails. -/
theorem bind_refuses {next : α → Read β} {e : Error} (hfirst : Reads start first read value)
    (hsecond : Refuses (start + first.length) second (next value) e) :
    Refuses start (first ++ second) (read >>= next) e := by
  intro tail
  rw [List.append_assoc, hfirst.run_bind, hsecond tail]

/-- A reading that takes nothing, and another after it. -/
theorem nil_bind {next : α → Read β} {result : β} (hfirst : Reads start [] read value)
    (hsecond : Reads start bytes (next value) result) :
    Reads start bytes (read >>= next) result :=
  hfirst.bind hsecond

/-- A reading that is followed by one that takes nothing. -/
theorem bind_nil {next : α → Read β} {result : β} (hfirst : Reads start bytes read value)
    (hsecond : Reads (start + bytes.length) [] (next value) result) :
    Reads start bytes (read >>= next) result := by
  have h := hfirst.bind hsecond
  rwa [List.append_nil] at h

theorem map (f : α → β) (h : Reads start bytes read value) :
    Reads start bytes (f <$> read) (f value) := by
  rw [map_eq_pure_bind]
  exact h.bind_nil (.pure _ _)

theorem offset (start : Nat) : Reads start [] Cbor.offset start := fun _ => rfl

theorem take (start : Nat) (bytes : Bytes) : Reads start bytes (Cbor.take bytes.length) bytes := by
  intro tail
  rw [Cbor.take, take?_readerAt]

theorem number (start width : Nat) {n : Nat} (hn : n < Nat.pow 256 width) :
    Reads start (Bytes.ofNat width n) (Cbor.number width) n := by
  have htake := take start (Bytes.ofNat width n)
  rw [Bytes.length_ofNat] at htake
  have h := htake.map Bytes.toNat
  rwa [Bytes.toNat_ofNat, Nat.mod_eq_of_lt hn] at h

/-! ### Heads -/

/-- An argument that has bytes of its own. -/
theorem argument (start origin : Nat) {minor width n : Nat}
    (hwidth : (minor, width) ∈ [(24, 1), (25, 2), (26, 4), (27, 8)]) (hn : n < Nat.pow 256 width) :
    Reads start (Bytes.ofNat width n) (Cbor.argument origin minor) (some n) := by
  simp only [List.mem_cons, Prod.mk.injEq, List.not_mem_nil, or_false] at hwidth
  obtain ⟨rfl, rfl⟩ | ⟨rfl, rfl⟩ | ⟨rfl, rfl⟩ | ⟨rfl, rfl⟩ := hwidth <;>
    exact (number start _ hn).map some

/-- The head that a first byte begins, by the argument that goes with the byte. -/
theorem headFrom {start origin major minor n : Nat} {head : Head} (hmajor : major < 7)
    (hminor : minor < 32) (hargument : Reads start bytes (Cbor.argument origin minor) (some n))
    (hhead : Head.ofArgument? major (some n) = some head) :
    Reads start bytes (Cbor.headFrom origin (32 * major + minor)) head := by
  have hdiv : (32 * major + minor) / 32 = major := by omega
  have hmod : (32 * major + minor) % 32 = minor := by omega
  have hne : major ≠ 7 := by omega
  rw [Cbor.headFrom, hdiv, hmod, if_neg hne]
  refine hargument.bind_nil ?_
  rw [hhead]
  exact pure _ head

/-- The next head, by the head that its first byte begins. -/
theorem token_of_first (start first : Nat) {head : Head} (hfirst : first < 256)
    (hhead : Reads (start + 1) bytes (Cbor.headFrom start first) head) :
    Reads start (UInt8.ofNat first :: bytes) Cbor.token ⟨head, start⟩ := by
  have hnumber : Reads start [UInt8.ofNat first] (Cbor.number 1) first :=
    number start 1 (by simpa using hfirst)
  refine (offset start).nil_bind ?_
  rw [← List.singleton_append]
  exact hnumber.bind (hhead.bind_nil (pure _ _))

/-- A head that carries a number is read as the head that it is. -/
theorem token (start : Nat) {major n : Nat} {head : Head} (hmajor : major < 7)
    (hwritten : WrittenHead major n bytes) (hhead : Head.ofArgument? major (some n) = some head) :
    Reads start bytes Cbor.token ⟨head, start⟩ := by
  cases hwritten with
  | short hn =>
    refine token_of_first start _ (by omega) (headFrom hmajor (by omega) ?_ hhead)
    rw [Cbor.argument, if_pos hn]
    exact pure _ _
  | wide minor width hwidth hn =>
    have hminor : minor < 32 := by
      simp only [List.mem_cons, Prod.mk.injEq, List.not_mem_nil, or_false] at hwidth
      omega
    exact token_of_first start _ (by omega)
      (headFrom hmajor hminor (argument _ start hwidth hn) hhead)

/-- A simple value in one byte. -/
theorem simple (start : Nat) {n : Nat} (hn : n < 24) :
    Reads start [UInt8.ofNat (224 + n)] Cbor.token ⟨.simple n, start⟩ := by
  have hmod : (224 + n) % 32 = n := by omega
  refine token_of_first start _ (by omega) ?_
  rw [Cbor.headFrom, if_pos (by omega), hmod, special, if_pos hn]
  exact pure _ _

theorem bool (start : Nat) (value : Bool) :
    Reads start [if value then 0xf5 else 0xf4] Cbor.token
      ⟨.simple (if value then 21 else 20), start⟩ := by
  have hbyte : (if value then 0xf5 else 0xf4 : UInt8) =
      UInt8.ofNat (224 + if value then 21 else 20) := by
    cases value <;> rfl
  rw [hbyte]
  exact simple start (by split <;> decide)

theorem null (start : Nat) : Reads start [0xf6] Cbor.token ⟨.simple 22, start⟩ := by
  have hbyte : (0xf6 : UInt8) = UInt8.ofNat (224 + 22) := by decide
  rw [hbyte]
  exact simple start (by decide)

theorem float (start : Nat) (bits : FloatBits) :
    ∃ x, Reads start bits.encode Cbor.token ⟨.float x, start⟩ := by
  cases bits with
  | half bits => exact ⟨_, token_of_first start 0xf9 (by decide)
      ((number _ _ bits.toNat_lt).map fun n => Head.float (.ofHalf n))⟩
  | single bits => exact ⟨_, token_of_first start 0xfa (by decide)
      ((number _ _ bits.toNat_lt).map fun n => Head.float (.ofSingle n))⟩
  | double bits => exact ⟨_, token_of_first start 0xfb (by decide)
      ((number _ _ bits.toNat_lt).map fun n => Head.float (.ofDouble n))⟩

/-- A loop whose first turn is its last. -/
theorem iterate_done {turn : α → Read (Turn α β)} {a : α} {b : β}
    (hturn : Reads start bytes (turn a) (.done b)) : Reads start bytes (iterate turn a) b := by
  intro tail
  rw [iterate, hturn tail]

/-- What does not begin with a tag has no tags to skip. -/
theorem dropTags (start : Nat) (keep : Nat → Bool) {first : Token}
    (hfirst : ∀ n, first.head ≠ .tag n) : Reads start [] (Cbor.dropTags keep first) first := by
  refine iterate_done ?_
  split
  · rename_i n hn
    exact absurd hn (hfirst n)
  · exact pure start _

/-! ### Strings -/

theorem byteString (start : Nat) (bytes : Bytes) :
    Reads start bytes (Cbor.byteString (some bytes.length)) bytes := by
  have hpart : Reads start bytes
      (segments Head.bytes? (fun _ n parts => (· :: parts) <$> Cbor.take n) (some bytes.length) [])
      [bytes] := (offset start).nil_bind ((take start bytes).map (· :: []))
  have hjoin : [bytes].reverse.flatten = bytes := by simp
  have h := hpart.map fun parts => parts.reverse.flatten
  rwa [hjoin] at h

theorem textSegment (start origin : Nat) (text : String) :
    Reads start (Text.encode text) (Cbor.textSegment origin (Text.encode text).length) text := by
  intro tail
  rw [Cbor.textSegment, take?_readerAt]
  dsimp only
  rw [Text.decode?_encode]

theorem textString (start : Nat) (text : String) :
    Reads start (Text.encode text) (Cbor.textString (some (Text.encode text).length)) text := by
  have hpart : Reads start (Text.encode text)
      (segments Head.text? (fun origin n parts => (· :: parts) <$> Cbor.textSegment origin n)
        (some (Text.encode text).length) []) [text] :=
    (offset start).nil_bind ((textSegment start _ text).map (· :: []))
  have hjoin : String.join [text].reverse = text := by simp
  have h := hpart.map fun parts => String.join parts.reverse
  rwa [hjoin] at h

theorem shortText (start origin : Nat) (text : String) :
    Reads start (Text.encode text) (Cbor.shortText origin (Text.encode text).length)
      (Text.encode text) := by
  refine (take start (Text.encode text)).bind_nil ?_
  rw [Text.decode?_encode]
  exact pure _ _

/-- A text that is short enough to be a name. -/
theorem shortName (start : Nat) (text : String) (origin : Nat)
    (hshort : (Text.encode text).length ≤ shortSize) :
    Reads start (Text.encode text)
      (Cbor.shortName ⟨.text (some (Text.encode text).length), origin⟩) (Text.encode text) := by
  refine (dropTags start _ (by simp)).nil_bind ?_
  dsimp only
  rw [if_pos hshort]
  exact shortText start origin text

/-! ### Integers -/

theorem integer (start n origin : Nat) :
    Reads start [] (Cbor.integer ⟨.unsigned n, origin⟩) (n : Int) :=
  (dropTags start _ (by simp)).nil_bind (pure start (n : Int))

theorem word64 (start origin : Nat) {n : Nat} (hn : n < 1 <<< 64) :
    Reads start [] (Cbor.word64 ⟨.unsigned n, origin⟩) n := by
  refine (integer start n origin).nil_bind ?_
  rw [if_neg (by omega), Int.toNat_natCast, if_neg (by omega)]
  exact pure start n

theorem word32 (start origin : Nat) (n : UInt32) :
    Reads start [] (Cbor.word32 ⟨.unsigned n.toNat, origin⟩) n := by
  have hn : n.toNat < 1 <<< 32 := n.toNat_lt
  refine (word64 start origin (Nat.lt_trans hn (by decide))).nil_bind ?_
  rw [if_pos hn, UInt32.ofNat_toNat]
  exact pure start n

end Reads

end DerivationPool.Cbor

/-!
Passing over what was written. An item is passed over exactly, whatever the widths of
its heads, if no more containers are open in it at a time than may be. The induction is
on the item; what carries it is that a container hands on one level less than it has.
-/
namespace DerivationPool.Cbor.Reads

variable {start : Nat} {bytes : Bytes}

theorem discard {α : Type} {read : Read α} {value : α} (h : Reads start bytes read value) :
    Reads start bytes (Functor.discard read) () :=
  h.map fun _ => ()

/-- A text behind its head, short or not. -/
theorem skipText (start : Nat) (text : String) :
    Reads start (Text.encode text) (Cbor.skipText (some (Text.encode text).length)) () := by
  rw [Cbor.skipText]
  split
  · exact (offset start).nil_bind (shortText start _ text).discard
  · exact (textString start text).discard

/-- A value that is a head and nothing else. -/
theorem skip_head {head : Head} (depth : Nat) (htoken : Reads start bytes Cbor.token ⟨head, start⟩)
    (hskip : ∀ inside, skipWith inside ⟨head, start⟩ = Pure.pure ()) :
    Reads start bytes (Cbor.token >>= skip depth) () := by
  refine htoken.bind_nil ?_
  cases depth with
  | zero | succ =>
    rw [skip, hskip]
    exact pure _ ()

/-- A string, given how what is behind its head is passed over. -/
theorem skip_string {head : Head} {content : Bytes} (depth : Nat)
    (htoken : Reads start bytes Cbor.token ⟨head, start⟩)
    (hskip : ∀ inside, Reads (start + bytes.length) content (skipWith inside ⟨head, start⟩) ()) :
    Reads start (bytes ++ content) (Cbor.token >>= skip depth) () := by
  refine htoken.bind ?_
  cases depth with
  | zero | succ => exact hskip _

theorem skip_array (depth count start : Nat) :
    Cbor.skip (depth + 1) ⟨.array (some count), start⟩ =
      counted (fun item _ => Cbor.skip depth item) count () := rfl

theorem skip_map (depth count start : Nat) :
    Cbor.skip (depth + 1) ⟨.map (some count), start⟩ =
      counted (fun key _ => do
        Cbor.skip depth key
        Cbor.skip depth (← Cbor.token)) count () := rfl

mutual

/-- An item is passed over if so many containers may be open in it. -/
theorem skip (start : Nat) {depth : Nat} : (item : Item) → {bytes : Bytes} → Written item bytes →
    item.depth ≤ depth → Reads start bytes (Cbor.token >>= Cbor.skip depth) ()
  | .unsigned n, _, .unsigned hhead, _ =>
    skip_head depth (token start (by decide) hhead rfl) fun _ => rfl
  | .negative n, _, .negative hhead, _ =>
    skip_head depth (token start (by decide) hhead rfl) fun _ => rfl
  | .bytes content, _, .bytes hhead, _ =>
    skip_string depth (token start (by decide) hhead rfl) fun _ => (byteString _ content).discard
  | .text text, _, .text hhead, _ =>
    skip_string depth (token start (by decide) hhead rfl) fun _ => skipText _ text
  | .array items, _, .array hhead hitems, hdepth => by
    rw [Item.depth] at hdepth
    obtain ⟨depth, rfl⟩ := Nat.exists_eq_add_one.mpr (Nat.zero_lt_of_lt hdepth)
    refine (token start (by decide) hhead rfl).bind ?_
    rw [skip_array]
    exact skipItems _ items hitems (Nat.le_of_succ_le_succ hdepth)
  | .map entries, _, .map hhead hentries, hdepth => by
    rw [Item.depth] at hdepth
    obtain ⟨depth, rfl⟩ := Nat.exists_eq_add_one.mpr (Nat.zero_lt_of_lt hdepth)
    refine (token start (by decide) hhead rfl).bind ?_
    rw [skip_map]
    exact skipEntries _ entries hentries (Nat.le_of_succ_le_succ hdepth)
  | .bool value, _, .bool _, _ => by
    refine skip_head depth (bool start value) fun _ => ?_
    cases value <;> rfl
  | .null, _, .null, _ => skip_head depth (null start) fun _ => rfl
  | .float bits, _, .float _, _ => by
    obtain ⟨x, htoken⟩ := float start bits
    exact skip_head depth htoken fun _ => rfl

theorem skipItems (start : Nat) {depth : Nat} : (items : List Item) → {bytes : Bytes} →
    WrittenItems items bytes → depthOfItems items ≤ depth →
    Reads start bytes (counted (fun item _ => Cbor.skip depth item) items.length ()) ()
  | [], _, .nil, _ => pure start ()
  | item :: items, _, .cons hitem hitems, hdepth => by
    rw [depthOfItems, Nat.max_le] at hdepth
    rw [List.length_cons, counted, ← bind_assoc]
    exact (skip start item hitem hdepth.1).bind (skipItems _ items hitems hdepth.2)

theorem skipEntries (start : Nat) {depth : Nat} : (entries : List (Item × Item)) →
    {bytes : Bytes} → WrittenEntries entries bytes → depthOfEntries entries ≤ depth →
    Reads start bytes
      (counted (fun key _ => do
        Cbor.skip depth key
        Cbor.skip depth (← Cbor.token)) entries.length ()) ()
  | [], _, .nil, _ => pure start ()
  | (key, value) :: entries, _, .cons hkey hvalue hentries, hdepth => by
    rw [depthOfEntries, Nat.max_le, Nat.max_le] at hdepth
    rw [List.length_cons, counted, ← bind_assoc, ← bind_assoc]
    have hfirst := skip start key hkey hdepth.1.1
    exact (hfirst.bind (skip _ value hvalue hdepth.1.2)).bind
      (skipEntries _ entries hentries hdepth.2)

end

end DerivationPool.Cbor.Reads
