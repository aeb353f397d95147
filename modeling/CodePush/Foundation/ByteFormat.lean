import CodePush.Foundation.Except

/-!
# Byte formats

Readers that consume a prefix of a byte string, writers that may refuse a
value, and the pairs of the two in which each is exact for the other. Nothing
here names a particular format.
-/

set_option autoImplicit false

namespace CodePush.Foundation

/-!
## Big-endian words
-/

/-- The `width` low-order bytes of a number, most significant first. -/
def bigEndian : Nat → Nat → List UInt8
  | 0, _ => []
  | width + 1, value => bigEndian width (value / 256) ++ [UInt8.ofNat value]

def ofBigEndian (bytes : List UInt8) : Nat :=
  bytes.foldl (fun value byte => value * 256 + byte.toNat) 0

@[simp] theorem bigEndian_length (width value : Nat) : (bigEndian width value).length = width := by
  induction width generalizing value with
  | zero => rfl
  | succ width ih => simp [bigEndian, ih]

theorem ofBigEndian_concat (bytes : List UInt8) (byte : UInt8) :
    ofBigEndian (bytes ++ [byte]) = ofBigEndian bytes * 256 + byte.toNat := by
  simp [ofBigEndian]

/-- A number that fits the width is read back from its bytes. -/
theorem ofBigEndian_bigEndian {width value : Nat} (fits : value < 256 ^ width) :
    ofBigEndian (bigEndian width value) = value := by
  induction width generalizing value with
  | zero =>
      have zero : value = 0 := by simpa using fits
      subst value
      rfl
  | succ width ih =>
      have high : value / 256 < 256 ^ width := by
        apply Nat.div_lt_of_lt_mul
        rwa [Nat.pow_succ, Nat.mul_comm] at fits
      rw [bigEndian, ofBigEndian_concat, ih high]
      have low : (UInt8.ofNat value).toNat = value % 256 := by simp
      rw [low]
      omega

/-- Every byte string is the big-endian form of the number it spells. -/
theorem bigEndian_ofBigEndian (bytes : List UInt8) :
    bigEndian bytes.length (ofBigEndian bytes) = bytes := by
  induction bytes using List.reverseRecOn with
  | nil => rfl
  | append_singleton bytes byte ih =>
      have small : byte.toNat < 256 := byte.toNat_lt
      have high : (ofBigEndian bytes * 256 + byte.toNat) / 256 = ofBigEndian bytes := by omega
      rw [List.length_append, List.length_singleton, ofBigEndian_concat, bigEndian, high, ih]
      have low : UInt8.ofNat (ofBigEndian bytes * 256 + byte.toNat) = byte := by
        apply UInt8.toNat_inj.mp
        simp only [UInt8.toNat_ofNat']
        omega
      rw [low]

theorem ofBigEndian_lt (bytes : List UInt8) : ofBigEndian bytes < 256 ^ bytes.length := by
  induction bytes using List.reverseRecOn with
  | nil => simp [ofBigEndian]
  | append_singleton bytes byte ih =>
      have small : byte.toNat < 256 := byte.toNat_lt
      rw [ofBigEndian_concat, List.length_append, List.length_singleton, Nat.pow_succ]
      omega

/-!
## Readers and writers
-/

/-- A reader consumes a prefix of its input or rejects it. -/
abbrev Reader (ε α : Type) := StateT (List UInt8) (Except ε) α

/-- A writer refuses the values that its format cannot hold. -/
abbrev Writer (ε α : Type) := α → Except ε (List UInt8)

namespace Reader

variable {ε α β : Type}

def fail (error : ε) : Reader ε α := fun _ => .error error

/-- The next `count` bytes, or `short` when fewer are left. -/
def take (short : ε) (count : Nat) : Reader ε (List UInt8) := fun input =>
  if count ≤ input.length then .ok (input.take count, input.drop count) else .error short

/-- The same reader `count` times, results in order. -/
def replicate : Nat → Reader ε α → Reader ε (List α)
  | 0, _ => pure []
  | count + 1, read => do
      let item ← read
      let items ← replicate count read
      pure (item :: items)

theorem bind_eq_ok {read : Reader ε α} {next : α → Reader ε β} {input rest : List UInt8} {result : β} :
    (read >>= next) input = .ok (result, rest) ↔
      ∃ value middle, read input = .ok (value, middle) ∧ next value middle = .ok (result, rest) := by
  simp only [bind, StateT.bind]
  cases outcome : read input with
  | error error => simp [Except.bind]
  | ok found =>
      obtain ⟨value, middle⟩ := found
      simp [Except.bind]

theorem bind_of_ok {read : Reader ε α} {input middle : List UInt8} {value : α}
    (next : α → Reader ε β) (found : read input = .ok (value, middle)) :
    (read >>= next) input = next value middle := by
  simp [bind, StateT.bind, Except.bind, found]

@[simp] theorem pure_eq_ok {value result : α} {input rest : List UInt8} :
    (pure value : Reader ε α) input = .ok (result, rest) ↔ value = result ∧ input = rest := by
  simp [pure, StateT.pure, Except.pure]

@[simp] theorem fail_eq_ok {error : ε} {result : α} {input rest : List UInt8} :
    (fail error : Reader ε α) input = .ok (result, rest) ↔ False := by
  simp [fail]

theorem take_append {short : ε} (bytes rest : List UInt8) :
    take short bytes.length (bytes ++ rest) = .ok (bytes, rest) := by
  simp [take]

theorem take_eq_ok {short : ε} {count : Nat} {input bytes rest : List UInt8} :
    take short count input = .ok (bytes, rest) ↔ bytes.length = count ∧ input = bytes ++ rest := by
  constructor
  · intro accepted
    unfold take at accepted
    split at accepted
    case isTrue enough =>
      cases accepted
      exact ⟨List.length_take_of_le enough, (List.take_append_drop count input).symm⟩
    case isFalse => cases accepted
  · rintro ⟨rfl, rfl⟩
    exact take_append bytes rest

end Reader

/-- All items one after the other; the first refusal is the result. -/
def writeAll {ε α : Type} (write : Writer ε α) : Writer ε (List α)
  | [] => .ok []
  | item :: items => do
      let head ← write item
      let tail ← writeAll write items
      .ok (head ++ tail)

/-!
## Reading another value's bytes
-/

/-- The reader finds the meaning of a value in the bytes of the value, whatever follows. -/
def Recovers {ε ε' ε'' α β : Type} (write : Writer ε α) (meaning : α → Except ε' β)
    (read : Reader ε'' β) (value : α) : Prop :=
  ∀ {bytes result}, write value = .ok bytes → meaning value = .ok result →
    ∀ rest, read (bytes ++ rest) = .ok (result, rest)

theorem Recovers.replicate {ε ε' ε'' α β : Type} {write : Writer ε α} {meaning : α → Except ε' β}
    {read : Reader ε'' β} {items : List α} {results : List β} {bytes : List UInt8}
    (each : ∀ item ∈ items, Recovers write meaning read item)
    (written : writeAll write items = .ok bytes) (meant : items.mapM meaning = .ok results)
    (rest : List UInt8) :
    Reader.replicate items.length read (bytes ++ rest) = .ok (results, rest) := by
  induction items generalizing bytes results with
  | nil =>
      cases written
      cases meant
      rfl
  | cons item items ih =>
      simp only [writeAll] at written
      obtain ⟨head, headWritten, written⟩ := except_bind_eq_ok.mp written
      obtain ⟨tail, tailWritten, written⟩ := except_bind_eq_ok.mp written
      rw [List.mapM_cons] at meant
      obtain ⟨first, firstMeant, meant⟩ := except_bind_eq_ok.mp meant
      obtain ⟨others, othersMeant, meant⟩ := except_bind_eq_ok.mp meant
      cases written
      cases meant
      have here := each item List.mem_cons_self headWritten firstMeant (tail ++ rest)
      have later := ih (fun other member => each other (List.mem_cons_of_mem item member))
        tailWritten othersMeant
      simp only [List.length_cons, Reader.replicate, List.append_assoc]
      rw [Reader.bind_of_ok _ here, Reader.bind_of_ok _ later]
      rfl

/-!
## Exact pairs
-/

/-- A writer and a reader that are exact for each other: what is written is read
back whatever follows it, and what is read is exactly what would be written. -/
structure Lawful {ε α : Type} (write : Writer ε α) (read : Reader ε α) : Prop where
  reads : ∀ {value bytes}, write value = .ok bytes →
    ∀ rest, read (bytes ++ rest) = .ok (value, rest)
  canonical : ∀ {input value rest}, read input = .ok (value, rest) →
    ∃ bytes, write value = .ok bytes ∧ input = bytes ++ rest

namespace Lawful

variable {ε α β : Type}

/-- Fixed-width words: `toNat` and `ofNat` identify the values with the numbers
that fit the width. -/
theorem word (short : ε) (width : Nat) (toNat : α → Nat) (ofNat : Nat → α)
    (fits : ∀ value, toNat value < 256 ^ width) (ofNat_toNat : ∀ value, ofNat (toNat value) = value)
    (toNat_ofNat : ∀ number, number < 256 ^ width → toNat (ofNat number) = number) :
    Lawful (fun value => (.ok (bigEndian width (toNat value)) : Except ε _))
      (do
        let bytes ← Reader.take short width
        pure (ofNat (ofBigEndian bytes))) where
  reads := by
    intro value bytes written rest
    cases written
    have taken : Reader.take short width (bigEndian width (toNat value) ++ rest) =
        .ok (bigEndian width (toNat value), rest) := by
      have whole := @Reader.take_append ε short (bigEndian width (toNat value)) rest
      rwa [bigEndian_length] at whole
    rw [Reader.bind_of_ok _ taken, ofBigEndian_bigEndian (fits value), ofNat_toNat]
    rfl
  canonical := by
    intro input value rest found
    obtain ⟨bytes, middle, taken, finished⟩ := Reader.bind_eq_ok.mp found
    obtain ⟨rfl, rfl⟩ := Reader.take_eq_ok.mp taken
    obtain ⟨rfl, rfl⟩ := Reader.pure_eq_ok.mp finished
    exact ⟨bytes, by rw [toNat_ofNat _ (ofBigEndian_lt bytes), bigEndian_ofBigEndian], rfl⟩

/-- Numbers below a limit, read through a word type that holds exactly those. -/
theorem bounded (tooLarge : ε) (width limit : Nat) {toNat : α → Nat} (ofNat : Nat → α)
    {read : Reader ε α} (word : Lawful (fun value => .ok (bigEndian width (toNat value))) read)
    (fits : ∀ value, toNat value < limit)
    (toNat_ofNat : ∀ number, number < limit → toNat (ofNat number) = number) :
    Lawful
      (fun number => if number ≥ limit then .error tooLarge else .ok (bigEndian width number))
      (do
        let value ← read
        pure (toNat value)) where
  reads := by
    intro number bytes written rest
    obtain ⟨small, written⟩ := except_guard_eq_ok.mp written
    have same := toNat_ofNat number (Nat.lt_of_not_le small)
    rw [← same] at written
    rw [Reader.bind_of_ok _ (word.reads written rest), same]
    rfl
  canonical := by
    intro input number rest found
    obtain ⟨value, middle, valueFound, finished⟩ := Reader.bind_eq_ok.mp found
    obtain ⟨rfl, rfl⟩ := Reader.pure_eq_ok.mp finished
    obtain ⟨bytes, written, rfl⟩ := word.canonical valueFound
    exact ⟨bytes, except_guard_eq_ok.mpr ⟨Nat.not_le_of_lt (fits value), written⟩, rfl⟩

/-- One item whose raw form `decode` accepts or rejects. -/
theorem refined {raw : Writer ε β} {readRaw : Reader ε β} (lawful : Lawful raw readRaw)
    {encode : α → Except ε β} {decode : β → Except ε α}
    (inverse : ∀ value code, encode value = .ok code ↔ decode code = .ok value) :
    Lawful
      (fun value => do
        let code ← encode value
        raw code)
      (do
        let code ← readRaw
        StateT.lift (decode code)) where
  reads := by
    intro value bytes written rest
    obtain ⟨code, encoded, written⟩ := except_bind_eq_ok.mp written
    rw [Reader.bind_of_ok _ (lawful.reads written rest)]
    simp [StateT.lift, (inverse value code).mp encoded, bind, Except.bind, pure, Except.pure]
  canonical := by
    intro input value rest found
    obtain ⟨code, middle, codeFound, finished⟩ := Reader.bind_eq_ok.mp found
    obtain ⟨bytes, written, rfl⟩ := lawful.canonical codeFound
    cases decoded : decode code with
    | error error => simp [StateT.lift, decoded, bind, Except.bind] at finished
    | ok result =>
        simp only [StateT.lift, decoded, bind, Except.bind, pure, Except.pure, Except.ok.injEq,
          Prod.mk.injEq] at finished
        obtain ⟨rfl, rfl⟩ := finished
        refine ⟨bytes, ?_, rfl⟩
        simp only [(inverse result code).mpr decoded, bind, Except.bind]
        exact written

/-- Repeating an exact pair is exact for the lists of that length. -/
theorem replicate_reads {write : Writer ε α} {read : Reader ε α} (lawful : Lawful write read)
    {items : List α} {bytes : List UInt8} (written : writeAll write items = .ok bytes)
    (rest : List UInt8) :
    Reader.replicate items.length read (bytes ++ rest) = .ok (items, rest) := by
  induction items generalizing bytes with
  | nil =>
      cases written
      rfl
  | cons item items ih =>
      simp only [writeAll] at written
      obtain ⟨head, headWritten, written⟩ := except_bind_eq_ok.mp written
      obtain ⟨tail, tailWritten, written⟩ := except_bind_eq_ok.mp written
      cases written
      simp only [List.length_cons, Reader.replicate, List.append_assoc]
      rw [Reader.bind_of_ok _ (lawful.reads headWritten (tail ++ rest)),
        Reader.bind_of_ok _ (ih tailWritten)]
      rfl

theorem replicate_canonical {write : Writer ε α} {read : Reader ε α} (lawful : Lawful write read)
    {count : Nat} {input rest : List UInt8} {items : List α}
    (found : Reader.replicate count read input = .ok (items, rest)) :
    items.length = count ∧ ∃ bytes, writeAll write items = .ok bytes ∧ input = bytes ++ rest := by
  induction count generalizing input items with
  | zero =>
      obtain ⟨rfl, rfl⟩ := Reader.pure_eq_ok.mp found
      exact ⟨rfl, [], rfl, rfl⟩
  | succ count ih =>
      obtain ⟨item, middle, headFound, remaining⟩ := Reader.bind_eq_ok.mp found
      obtain ⟨tail, last, tailFound, finished⟩ := Reader.bind_eq_ok.mp remaining
      obtain ⟨rfl, rfl⟩ := Reader.pure_eq_ok.mp finished
      obtain ⟨head, headWritten, rfl⟩ := lawful.canonical headFound
      obtain ⟨length, rest, tailWritten, rfl⟩ := ih tailFound
      refine ⟨by simp [length], head ++ rest, ?_, by simp⟩
      simp only [writeAll, headWritten, tailWritten]
      rfl

/-- A length prefix followed by that many items. -/
theorem counted {writeCount : Writer ε Nat} {readCount : Reader ε Nat}
    (count : Lawful writeCount readCount)
    {write : Writer ε α} {read : Reader ε α} (item : Lawful write read) :
    Lawful
      (fun items : List α => do
        let prefixed ← writeCount items.length
        let body ← writeAll write items
        .ok (prefixed ++ body))
      (do
        let length ← readCount
        Reader.replicate length read) where
  reads := by
    intro items bytes written rest
    obtain ⟨prefixed, countWritten, written⟩ := except_bind_eq_ok.mp written
    obtain ⟨body, bodyWritten, written⟩ := except_bind_eq_ok.mp written
    cases written
    rw [List.append_assoc, Reader.bind_of_ok _ (count.reads countWritten (body ++ rest))]
    exact item.replicate_reads bodyWritten rest
  canonical := by
    intro input items rest found
    obtain ⟨length, middle, countFound, remaining⟩ := Reader.bind_eq_ok.mp found
    obtain ⟨prefixed, countWritten, rfl⟩ := count.canonical countFound
    obtain ⟨rfl, body, bodyWritten, rfl⟩ := item.replicate_canonical remaining
    refine ⟨prefixed ++ body, ?_, by simp⟩
    simp only [countWritten, bodyWritten]
    rfl

/-- A length prefix followed by that many raw bytes, which `decode` accepts or rejects. -/
theorem sized {writeCount : Writer ε Nat} {readCount : Reader ε Nat}
    (count : Lawful writeCount readCount) (short : ε)
    {encode : α → List UInt8} {decode : List UInt8 → Except ε α}
    (decodes : ∀ value, decode (encode value) = .ok value)
    (encodes : ∀ {bytes value}, decode bytes = .ok value → encode value = bytes) :
    Lawful
      (fun value => do
        let prefixed ← writeCount (encode value).length
        .ok (prefixed ++ encode value))
      (do
        let length ← readCount
        let bytes ← Reader.take short length
        StateT.lift (decode bytes)) where
  reads := by
    intro value bytes written rest
    obtain ⟨prefixed, countWritten, written⟩ := except_bind_eq_ok.mp written
    cases written
    rw [List.append_assoc, Reader.bind_of_ok _ (count.reads countWritten (encode value ++ rest)),
      Reader.bind_of_ok _ (Reader.take_append (encode value) rest)]
    simp [StateT.lift, decodes, bind, Except.bind, pure, Except.pure]
  canonical := by
    intro input value rest found
    obtain ⟨length, middle, countFound, remaining⟩ := Reader.bind_eq_ok.mp found
    obtain ⟨prefixed, countWritten, rfl⟩ := count.canonical countFound
    obtain ⟨bytes, last, taken, finished⟩ := Reader.bind_eq_ok.mp remaining
    obtain ⟨rfl, rfl⟩ := Reader.take_eq_ok.mp taken
    cases decoded : decode bytes with
    | error error => simp [StateT.lift, decoded, bind, Except.bind] at finished
    | ok text =>
        simp only [StateT.lift, decoded, bind, Except.bind, pure, Except.pure, Except.ok.injEq,
          Prod.mk.injEq] at finished
        obtain ⟨rfl, rfl⟩ := finished
        have same := encodes decoded
        refine ⟨prefixed ++ bytes, ?_, by simp⟩
        simp only [same, countWritten]
        rfl

end Lawful

end CodePush.Foundation
