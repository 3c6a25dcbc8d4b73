import GuiguBridge.Lib.ByteCodec
import Mathlib.Tactic.Common
import Mathlib.Tactic.Ring

/-!
# Readers with a position

Code that reads a slice keeps a position in it.  Past the end of the slice it meets an error where
it asks for the bytes, and a panic where it takes them.

* `Outcome` — a value, an error, or a panic;
* `checkedAdd`, `usizeAdd`, `getRange`, `slice`, `splitAt`, `index` — what is done with sizes and
  slices;
* `Cursor` — a reader that has the whole text and its position in it;
* `Codec m G` — **`m` reads a value from the bytes that `G` relates to it, and has an error for
  all others**: it never panics; one rule for each way to put fields together;
* `Codec.run` — the same of a whole text.
-/

namespace ByteCodec

variable {α β : Type}

/-! ### Outcomes -/

/-- How a call ends. -/
inductive Outcome (α : Type) where
  | ok (value : α)
  | err
  | panic
  deriving DecidableEq

namespace Outcome

protected def bind : Outcome α → (α → Outcome β) → Outcome β
  | .ok a, f => f a
  | .err, _ => .err
  | .panic, _ => .panic

instance : Monad Outcome where
  pure := .ok
  bind := Outcome.bind

@[simp] theorem bind_ok (a : α) (f : α → Outcome β) : ((.ok a : Outcome α) >>= f) = f a := rfl

@[simp] theorem bind_err (f : α → Outcome β) : ((.err : Outcome α) >>= f) = .err := rfl

theorem bind_eq_ok {o : Outcome α} {f : α → Outcome β} {b : β} :
    (o >>= f) = .ok b ↔ ∃ a, o = .ok a ∧ f a = .ok b := by
  cases o with
  | ok a =>
    rw [bind_ok]
    constructor
    · exact fun h => ⟨a, rfl, h⟩
    · rintro ⟨_, ha, h⟩
      cases ha
      exact h
  | err => exact iff_of_false (fun h => nomatch h) fun ⟨_, h, _⟩ => nomatch h
  | panic => exact iff_of_false (fun h => nomatch h) fun ⟨_, h, _⟩ => nomatch h

theorem bind_ne_panic {o : Outcome α} {f : α → Outcome β} (ho : o ≠ .panic)
    (hf : ∀ a, o = .ok a → f a ≠ .panic) : (o >>= f) ≠ .panic := by
  cases o with
  | ok a => exact hf a rfl
  | err => exact fun h => nomatch h
  | panic => exact absurd rfl ho

/-- `ok_or(())`. -/
def ofOption : Option α → Outcome α
  | some a => .ok a
  | none => .err

end Outcome

/-! ### Sizes and slices -/

/-- `checked_add` of sizes. -/
def checkedAdd (a b : Nat) : Option Nat := if a + b < 2 ^ 64 then some (a + b) else none

/-- `a + b` of sizes. -/
def usizeAdd (a b : Nat) : Outcome Nat := if a + b < 2 ^ 64 then .ok (a + b) else .panic

/-- `a - b` of sizes. -/
def usizeSub (a b : Nat) : Outcome Nat := if b ≤ a then .ok (a - b) else .panic

/-- `bytes.get(start..stop)`. -/
def getRange (bytes : Bytes) (start stop : Nat) : Option Bytes :=
  if start ≤ stop ∧ stop ≤ bytes.length then some ((bytes.drop start).take (stop - start)) else none

/-- `bytes[start..stop]`. -/
def slice (bytes : Bytes) (start stop : Nat) : Outcome Bytes :=
  match getRange bytes start stop with
  | some value => .ok value
  | none => .panic

/-- `bytes.split_at(mid)`. -/
def splitAt (bytes : Bytes) (mid : Nat) : Outcome (Bytes × Bytes) :=
  if mid ≤ bytes.length then .ok (bytes.take mid, bytes.drop mid) else .panic

/-- `out[start..start + n].copy_from_slice(value)`. -/
def copyInto (out : Bytes) (start : Nat) (value : Bytes) : Outcome Bytes :=
  if start + value.length ≤ out.length then
    .ok (out.take start ++ (value ++ out.drop (start + value.length)))
  else .panic

/-- `values[i]`. -/
def index (values : List α) (i : Nat) : Outcome α :=
  match values[i]? with
  | some value => .ok value
  | none => .panic

/-- `bytes.try_into()`. -/
def tryInto (n : Nat) (bytes : Bytes) : Outcome (Block n) :=
  if h : bytes.length = n then .ok ⟨bytes, h⟩ else .err

/-- What a slice can hold: no object is larger than half of the addresses. -/
def Addressable (bytes : Bytes) : Prop := bytes.length < 2 ^ 63

theorem getRange_append (front value rest : Bytes) :
    getRange (front ++ (value ++ rest)) front.length (front.length + value.length) =
      some value := by
  have hlen : (front ++ (value ++ rest)).length = front.length + (value.length + rest.length) := by
    rw [List.length_append, List.length_append]
  rw [getRange, if_pos ⟨by omega, by omega⟩, List.drop_left, Nat.add_sub_cancel_left,
    List.take_left]

theorem getRange_short {bytes : Bytes} {start stop : Nat} (h : bytes.length < stop) :
    getRange bytes start stop = none :=
  if_neg fun hrange => absurd hrange.2 (Nat.not_le.mpr h)

/-- A slice within its bounds does not panic. -/
theorem slice_append (front rest : Bytes) {value bytes : Bytes} {start stop : Nat}
    (hbytes : bytes = front ++ (value ++ rest)) (hstart : front.length = start)
    (hstop : start + value.length = stop) : slice bytes start stop = .ok value := by
  rw [hbytes, slice, ← hstop, ← hstart, getRange_append]

theorem index_append (front rest : List α) {values : List α} {a : α} {i : Nat}
    (hvalues : values = front ++ a :: rest) (hi : front.length = i) :
    index values i = .ok a := by
  rw [hvalues, index, ← hi, List.getElem?_append_right le_rfl, Nat.sub_self]
  rfl

theorem tryInto_block {n : Nat} (block : Block n) : tryInto n block.1 = .ok block :=
  dif_pos block.2

/-- What is copied over bytes of its length. -/
theorem copyInto_append (front old rest : Bytes) {value bytes : Bytes} {start : Nat}
    (hbytes : bytes = front ++ (old ++ rest)) (hstart : front.length = start)
    (hlen : old.length = value.length) :
    copyInto bytes start value = .ok (front ++ (value ++ rest)) := by
  have hfits : start + value.length ≤ bytes.length := by
    rw [hbytes, List.length_append, List.length_append]
    omega
  have hdrop : (front ++ (old ++ rest)).drop (front.length + old.length) = rest := by
    rw [← List.append_assoc, ← List.length_append, List.drop_left]
  rw [copyInto, if_pos hfits, hbytes, ← hlen, ← hstart, List.take_left, hdrop]

/-- The first bytes of a text. -/
theorem exists_block (n : Nat) {bytes : Bytes} (h : n ≤ bytes.length) :
    ∃ (block : Block n) (rest : Bytes), bytes = block.1 ++ rest :=
  ⟨⟨bytes.take n, List.length_take_of_le h⟩, bytes.drop n, (List.take_append_drop n bytes).symm⟩

/-- The last bytes of a text. -/
theorem exists_block_end (n : Nat) {bytes : Bytes} (h : n ≤ bytes.length) :
    ∃ (front : Bytes) (block : Block n), bytes = front ++ block.1 :=
  ⟨bytes.take (bytes.length - n), ⟨bytes.drop (bytes.length - n), by
    rw [List.length_drop]
    omega⟩, (List.take_append_drop _ bytes).symm⟩

/-! ### Whole numbers -/

/-- `from_be_bytes`. -/
def fromBigEndian (bytes : Bytes) : Nat := bytes.foldl (fun acc b => 256 * acc + b.toNat) 0

theorem foldl_bigEndian (bytes : Bytes) (acc : Nat) :
    bytes.foldl (fun acc b => 256 * acc + b.toNat) acc =
      256 ^ bytes.length * acc + fromBigEndian bytes := by
  induction bytes generalizing acc with
  | nil => simp [fromBigEndian]
  | cons b bytes ih =>
    rw [fromBigEndian, List.foldl_cons, List.foldl_cons, ih, ih (256 * 0 + b.toNat),
      List.length_cons]
    ring

theorem fromBigEndian_cons (b : UInt8) (bytes : Bytes) :
    fromBigEndian (b :: bytes) = 256 ^ bytes.length * b.toNat + fromBigEndian bytes := by
  rw [fromBigEndian, List.foldl_cons, foldl_bigEndian]
  ring

theorem fromBigEndian_lt (bytes : Bytes) : fromBigEndian bytes < 256 ^ bytes.length := by
  induction bytes with
  | nil => decide
  | cons b bytes ih =>
    have hb := b.toNat_lt
    have hmul : 256 ^ bytes.length * b.toNat ≤ 256 ^ bytes.length * 255 :=
      Nat.mul_le_mul_left _ (by omega)
    rw [fromBigEndian_cons, List.length_cons, Nat.pow_succ]
    omega

/-- Bytes are the digits of their number. -/
theorem bigEndian_fromBigEndian (bytes : Bytes) :
    bigEndian bytes.length (fromBigEndian bytes) = bytes := by
  induction bytes with
  | nil => rfl
  | cons b bytes ih =>
    have hlt := fromBigEndian_lt bytes
    have hpos : 0 < 256 ^ bytes.length := Nat.pow_pos (by omega)
    have hhigh : (256 ^ bytes.length * b.toNat + fromBigEndian bytes) / 256 ^ bytes.length =
        b.toNat := by
      rw [Nat.mul_add_div hpos, Nat.div_eq_of_lt hlt, Nat.add_zero]
    have hlow : (256 ^ bytes.length * b.toNat + fromBigEndian bytes) % 256 ^ bytes.length =
        fromBigEndian bytes := by
      rw [Nat.mul_add_mod, Nat.mod_eq_of_lt hlt]
    rw [fromBigEndian_cons, List.length_cons, bigEndian, hhigh, hlow, ih, UInt8.ofNat_toNat]

/-- A number has its own digits. -/
theorem fromBigEndian_bigEndian {width n : Nat} (h : n < 256 ^ width) :
    fromBigEndian (bigEndian width n) = n := by
  induction width generalizing n with
  | zero =>
    obtain rfl : n = 0 := by simpa using h
    rfl
  | succ width ih =>
    have hpos : 0 < 256 ^ width := Nat.pow_pos (by omega)
    have hdigit : n / 256 ^ width < 256 := by
      rw [Nat.div_lt_iff_lt_mul hpos, Nat.mul_comm]
      simpa [Nat.pow_succ] using h
    have hbyte : (UInt8.ofNat (n / 256 ^ width)).toNat = n / 256 ^ width :=
      UInt8.toNat_ofNat_of_lt' hdigit
    rw [bigEndian, fromBigEndian_cons, length_bigEndian, hbyte, ih (Nat.mod_lt _ hpos)]
    exact Nat.div_add_mod n (256 ^ width)

/-- `to_be_bytes`. -/
def be16 (n : UInt16) : Bytes := bigEndian 2 n.toNat
def be32 (n : UInt32) : Bytes := bigEndian 4 n.toNat
def be64 (n : UInt64) : Bytes := bigEndian 8 n.toNat

@[simp] theorem length_be16 (n : UInt16) : (be16 n).length = 2 := length_bigEndian 2 _

@[simp] theorem length_be32 (n : UInt32) : (be32 n).length = 4 := length_bigEndian 4 _

@[simp] theorem length_be64 (n : UInt64) : (be64 n).length = 8 := length_bigEndian 8 _

theorem ofNat_be16 (n : UInt16) : UInt16.ofNat (fromBigEndian (be16 n)) = n := by
  rw [be16, fromBigEndian_bigEndian (UInt16.toNat_lt n), UInt16.ofNat_toNat]

theorem ofNat_be32 (n : UInt32) : UInt32.ofNat (fromBigEndian (be32 n)) = n := by
  rw [be32, fromBigEndian_bigEndian (UInt32.toNat_lt n), UInt32.ofNat_toNat]

theorem be16_ofNat (block : Block 2) : be16 (.ofNat (fromBigEndian block.1)) = block.1 := by
  have hlt := fromBigEndian_lt block.1
  have hdigits := bigEndian_fromBigEndian block.1
  rw [block.2] at hlt hdigits
  rw [be16, UInt16.toNat_ofNat_of_lt' hlt, hdigits]

theorem be32_ofNat (block : Block 4) : be32 (.ofNat (fromBigEndian block.1)) = block.1 := by
  have hlt := fromBigEndian_lt block.1
  have hdigits := bigEndian_fromBigEndian block.1
  rw [block.2] at hlt hdigits
  rw [be32, UInt32.toNat_ofNat_of_lt' hlt, hdigits]

/-! ### Readers -/

/-- Reads at a position of a text, and moves on. -/
def Cursor (α : Type) := Bytes → Nat → Outcome (α × Nat)

namespace Cursor

instance : Monad Cursor where
  pure a := fun _ pos => .ok (a, pos)
  bind m f := fun bytes pos => m bytes pos >>= fun r => f r.1 bytes r.2

/-- A computation that does not read. -/
def lift (outcome : Outcome α) : Cursor α := fun _ pos => outcome >>= fun a => .ok (a, pos)

def fail : Cursor α := fun _ _ => .err

/-- Goes on where the condition holds. -/
def check (p : Prop) [Decidable p] : Cursor Unit := if p then pure () else fail

/-- The next bytes, the end found by `checked_add`. -/
def take (n : Nat) : Cursor Bytes := fun bytes pos => do
  let stop ← Outcome.ofOption (checkedAdd pos n)
  let value ← Outcome.ofOption (getRange bytes pos stop)
  .ok (value, stop)

/-- `bytes.get(at..at + n)`, and `at += n`. -/
def chunk (n : Nat) : Cursor Bytes := fun bytes pos => do
  let stop ← usizeAdd pos n
  let value ← Outcome.ofOption (getRange bytes pos stop)
  .ok (value, stop)

/-- A fixed number of bytes. -/
def array (n : Nat) : Cursor (Block n) := do lift (tryInto n (← take n))

/-- `take(1)?[0]`. -/
def byte : Cursor UInt8 := do lift (index (← take 1) 0)

/-- `*bytes.get(at)`, and `at += 1`. -/
def getByte : Cursor UInt8 := fun bytes pos => do
  let value ← Outcome.ofOption bytes[pos]?
  let stop ← usizeAdd pos 1
  .ok (value, stop)

/-- `bytes.get(at..at + n) == Some(value)`, and `at += n`. -/
def expect (value : Bytes) : Cursor Unit := fun bytes pos => do
  let stop ← usizeAdd pos value.length
  if getRange bytes pos stop = some value then .ok ((), stop) else .err

def u16 : Cursor UInt16 := do return .ofNat (fromBigEndian (← array 2).1)
def u32 : Cursor UInt32 := do return .ofNat (fromBigEndian (← array 4).1)
def u64 : Cursor UInt64 := do return .ofNat (fromBigEndian (← array 8).1)

/-- Reads a text from its beginning to its end. -/
def whole (m : Cursor α) (bytes : Bytes) : Outcome α := do
  let (value, pos) ← m bytes 0
  if pos ≠ bytes.length then .err else .ok value

end Cursor

/-! ### What a reader reads -/

/-- The reader reads a value from the bytes that are related to it and from no others, wherever
they stand, and it never panics. -/
structure Codec (m : Cursor α) (G : α → Bytes → Prop) : Prop where
  reads : ∀ {a taken}, G a taken → ∀ front rest, Addressable (front ++ (taken ++ rest)) →
    m (front ++ (taken ++ rest)) front.length = .ok (a, front.length + taken.length)
  only : ∀ front back, Addressable (front ++ back) →
    m (front ++ back) front.length = .err ∨ ∃ a taken rest, back = taken ++ rest ∧ G a taken

/-- The reader moves on by so many bytes at least. -/
def Advances (m : Cursor α) (n : Nat) : Prop :=
  ∀ bytes pos a stop, m bytes pos = .ok (a, stop) → pos + n ≤ stop

namespace Advances

theorem pure (a : α) : Advances (Pure.pure a : Cursor α) 0 := by
  intro bytes pos b stop h
  cases h
  exact le_rfl

theorem mono {m : Cursor α} {k n : Nat} (h : Advances m n) (hk : k ≤ n) : Advances m k :=
  fun bytes pos a stop hok => (Nat.add_le_add_left hk pos).trans (h bytes pos a stop hok)

theorem bind {m : Cursor α} {f : α → Cursor β} {n : Nat} (hm : Advances m n)
    (hf : ∀ a, Advances (f a) 0) : Advances (m >>= f) n := by
  intro bytes pos b stop h
  replace h : (m bytes pos >>= fun r => f r.1 bytes r.2) = .ok (b, stop) := h
  cases hfirst : m bytes pos with
  | ok r =>
    rw [hfirst, Outcome.bind_ok] at h
    have hn := hm bytes pos r.1 r.2 hfirst
    have hrest := hf r.1 bytes r.2 b stop h
    omega
  | err =>
    rw [hfirst] at h
    cases h
  | panic =>
    rw [hfirst] at h
    cases h

theorem lift (outcome : Outcome α) : Advances (Cursor.lift outcome) 0 := by
  intro bytes pos a stop h
  cases outcome with
  | ok b =>
    cases h
    exact le_rfl
  | err => cases h
  | panic => cases h

theorem check (p : Prop) [Decidable p] : Advances (Cursor.check p) 0 := by
  rw [Cursor.check]
  split
  · exact pure ()
  · intro bytes pos a stop h
    cases h

theorem take (n : Nat) : Advances (Cursor.take n) n := by
  intro bytes pos value stop h
  rw [Cursor.take, checkedAdd] at h
  split at h
  · replace h : (Outcome.ofOption (getRange bytes pos (pos + n)) >>= fun value =>
      .ok (value, pos + n)) = .ok (_, stop) := h
    cases hrange : getRange bytes pos (pos + n) with
    | none =>
      rw [hrange] at h
      cases h
    | some value =>
      rw [hrange] at h
      cases h
      exact le_rfl
  · cases h

theorem array (n : Nat) : Advances (Cursor.array n) n :=
  (take n).bind fun _ => lift _

theorem u16 : Advances Cursor.u16 2 := (array 2).bind fun _ => pure _

end Advances

/-- The bytes of a value. -/
def Written (put : α → Bytes) (a : α) (bytes : Bytes) : Prop := bytes = put a

namespace Codec

theorem congr {m : Cursor α} {G G' : α → Bytes → Prop} (h : Codec m G)
    (hG : ∀ a bytes, G a bytes ↔ G' a bytes) : Codec m G' where
  reads hread := h.reads ((hG _ _).mpr hread)
  only front back haddr := by
    obtain herr | ⟨a, taken, rest, hback, hread⟩ := h.only front back haddr
    · exact .inl herr
    · exact .inr ⟨a, taken, rest, hback, (hG _ _).mp hread⟩

theorem pure (a : α) : Codec (Pure.pure a : Cursor α) fun b bytes => b = a ∧ bytes = [] where
  reads := by
    rintro _ _ ⟨rfl, rfl⟩ front rest -
    rfl
  only _ back _ := .inr ⟨a, [], back, rfl, rfl, rfl⟩

theorem fail : Codec (Cursor.fail : Cursor α) fun _ _ => False where
  reads h := h.elim
  only _ _ _ := .inl rfl

/-- One reader after the other. -/
theorem bind {m : Cursor α} {f : α → Cursor β} {G : α → Bytes → Prop}
    {H : α → β → Bytes → Prop} (hm : Codec m G) (hf : ∀ a, Codec (f a) (H a)) :
    Codec (m >>= f) fun b bytes =>
      ∃ a taken, G a taken ∧ ∃ more, bytes = taken ++ more ∧ H a b more where
  reads := by
    rintro b _ ⟨a, taken, hG, more, rfl, hH⟩ front rest haddr
    rw [List.append_assoc] at haddr ⊢
    have hfirst := hm.reads hG front (more ++ rest) haddr
    rw [← List.append_assoc] at haddr
    have hsecond := (hf a).reads hH (front ++ taken) rest haddr
    rw [List.append_assoc, List.length_append] at hsecond
    show (m _ _ >>= fun r => f r.1 _ r.2) = _
    rw [hfirst, Outcome.bind_ok, hsecond, List.length_append, Nat.add_assoc]
  only front back haddr := by
    show (m _ _ >>= fun r => f r.1 _ r.2) = .err ∨ _
    obtain herr | ⟨a, taken, rest, rfl, hG⟩ := hm.only front back haddr
    · rw [herr, Outcome.bind_err]
      exact .inl rfl
    · rw [hm.reads hG front rest haddr, Outcome.bind_ok]
      rw [← List.append_assoc] at haddr
      have hsecond := (hf a).only (front ++ taken) rest haddr
      rw [List.append_assoc, List.length_append] at hsecond
      obtain herr | ⟨b, more, rest', rfl, hH⟩ := hsecond
      · exact .inl herr
      · exact .inr ⟨b, taken ++ more, rest', by rw [List.append_assoc], a, taken, hG, more, rfl, hH⟩

/-- One field after the other. -/
theorem field {m : Cursor α} {f : α → Cursor β} {put : α → Bytes} {H : α → β → Bytes → Prop}
    (hm : Codec m (Written put)) (hf : ∀ a, Codec (f a) (H a)) :
    Codec (m >>= f) fun b bytes => ∃ a more, bytes = put a ++ more ∧ H a b more := by
  refine (bind hm hf).congr fun b bytes => ?_
  constructor
  · rintro ⟨a, _, rfl, more, hbytes, hH⟩
    exact ⟨a, more, hbytes, hH⟩
  · rintro ⟨a, more, hbytes, hH⟩
    exact ⟨a, put a, rfl, more, hbytes, hH⟩

/-- A computation that does not panic, between two fields. -/
theorem lift {outcome : Outcome α} (h : outcome ≠ .panic) :
    Codec (Cursor.lift outcome) fun a bytes => outcome = .ok a ∧ bytes = [] where
  reads := by
    rintro _ _ ⟨rfl, rfl⟩ front rest -
    rfl
  only _ back _ := by
    cases outcome with
    | ok a => exact .inr ⟨a, [], back, rfl, rfl, rfl⟩
    | err => exact .inl rfl
    | panic => exact absurd rfl h

/-- A condition at the end. -/
theorem guard (p : Prop) [Decidable p] :
    Codec (Cursor.check p) fun _ bytes => p ∧ bytes = [] := by
  by_cases h : p
  · rw [Cursor.check, if_pos h]
    refine (pure ()).congr fun _ bytes => ?_
    rw [and_iff_right h, and_iff_right rfl]
  · rw [Cursor.check, if_neg h]
    exact fail.congr fun _ bytes => iff_of_false id fun hp => h hp.1

/-- A condition between two fields. -/
theorem check {p : Prop} [Decidable p] {f : Unit → Cursor β} {H : β → Bytes → Prop}
    (hf : Codec (f ()) H) :
    Codec (Cursor.check p >>= f) fun b bytes => p ∧ H b bytes := by
  refine (bind (guard p) fun _ => hf).congr fun b bytes => ?_
  constructor
  · rintro ⟨_, _, ⟨hp, rfl⟩, more, rfl, hH⟩
    exact ⟨hp, hH⟩
  · rintro ⟨hp, hH⟩
    exact ⟨(), [], ⟨hp, rfl⟩, bytes, rfl, hH⟩

/-- A leaf of a reader: it moves on by a fixed number of bytes, or there are too few. -/
theorem of_length {m : Cursor Bytes} {n : Nat}
    (hok : ∀ front value rest, value.length = n → Addressable (front ++ (value ++ rest)) →
      m (front ++ (value ++ rest)) front.length = .ok (value, front.length + n))
    (herr : ∀ front back, back.length < n → Addressable (front ++ back) →
      m (front ++ back) front.length = .err) :
    Codec m fun value bytes => bytes = value ∧ value.length = n where
  reads := by
    rintro value _ ⟨rfl, hlen⟩ front rest haddr
    rw [hok front _ rest hlen haddr, hlen]
  only front back haddr := by
    by_cases hlen : back.length < n
    · exact .inl (herr front back hlen haddr)
    · exact .inr ⟨back.take n, back.take n, back.drop n, (List.take_append_drop n back).symm, rfl,
        List.length_take_of_le (Nat.not_lt.1 hlen)⟩

theorem take (n : Nat) : Codec (Cursor.take n) fun value bytes =>
    bytes = value ∧ value.length = n := by
  refine of_length ?_ ?_
  · rintro front value rest rfl haddr
    rw [Addressable, List.length_append, List.length_append] at haddr
    rw [Cursor.take, checkedAdd, if_pos (by omega)]
    show (Outcome.ofOption (getRange _ _ _) >>= _) = _
    rw [getRange_append]
    rfl
  · intro front back hlen haddr
    have hshort : (front ++ back).length < front.length + n := by
      rw [List.length_append]
      omega
    rw [Cursor.take, checkedAdd]
    split
    · show (Outcome.ofOption (getRange _ _ _) >>= _) = _
      rw [getRange_short hshort]
      rfl
    · rfl

theorem chunk {n : Nat} (hn : n < 2 ^ 63) : Codec (Cursor.chunk n) fun value bytes =>
    bytes = value ∧ value.length = n := by
  refine of_length ?_ ?_
  · rintro front value rest rfl haddr
    rw [Addressable, List.length_append, List.length_append] at haddr
    rw [Cursor.chunk, usizeAdd, if_pos (by omega)]
    show (Outcome.ofOption (getRange _ _ _) >>= _) = _
    rw [getRange_append]
    rfl
  · intro front back hlen haddr
    have hshort : (front ++ back).length < front.length + n := by
      rw [List.length_append]
      omega
    rw [Addressable, List.length_append] at haddr
    rw [Cursor.chunk, usizeAdd, if_pos (by omega)]
    show (Outcome.ofOption (getRange _ _ _) >>= _) = _
    rw [getRange_short hshort]
    rfl

theorem expect {value : Bytes} (hn : value.length < 2 ^ 63) :
    Codec (Cursor.expect value) (Written fun _ => value) where
  reads := by
    rintro _ _ rfl front rest haddr
    rw [Addressable, List.length_append, List.length_append] at haddr
    rw [Cursor.expect, usizeAdd, if_pos (by omega), Outcome.bind_ok, getRange_append, if_pos rfl]
  only front back haddr := by
    rw [Addressable, List.length_append] at haddr
    rw [Cursor.expect, usizeAdd, if_pos (by omega), Outcome.bind_ok]
    split
    · rename_i hrange
      refine .inr ⟨(), value, back.drop value.length, ?_, rfl⟩
      rw [getRange] at hrange
      split at hrange
      · have htake := Option.some.inj hrange
        rw [List.drop_left, Nat.add_sub_cancel_left] at htake
        calc back = back.take value.length ++ back.drop value.length :=
              (List.take_append_drop _ _).symm
          _ = value ++ back.drop value.length := by rw [htake]
      · cases hrange
    · exact .inl rfl

theorem array (n : Nat) : Codec (Cursor.array n) (Written Subtype.val) := by
  have hlift : ∀ value, Codec (Cursor.lift (tryInto n value)) fun block bytes =>
      tryInto n value = .ok block ∧ bytes = [] := by
    intro value
    refine lift ?_
    rw [tryInto]
    split
    · exact fun h => nomatch h
    · exact fun h => nomatch h
  refine (bind (take n) hlift).congr fun block bytes => ?_
  constructor
  · rintro ⟨value, _, ⟨rfl, hlen⟩, _, rfl, hblock, rfl⟩
    rw [tryInto, dif_pos hlen] at hblock
    cases hblock
    exact List.append_nil _
  · rintro rfl
    exact ⟨block.1, block.1, ⟨rfl, block.2⟩, [], (List.append_nil _).symm, tryInto_block block,
      rfl⟩

theorem byte : Codec Cursor.byte (Written fun b => [b]) where
  reads := by
    rintro b _ rfl front rest haddr
    show (Cursor.take 1 _ _ >>= fun r => Cursor.lift (index r.1 0) _ r.2) = _
    rw [(take 1).reads ⟨rfl, rfl⟩ front rest haddr]
    rfl
  only front back haddr := by
    show (Cursor.take 1 _ _ >>= fun r => Cursor.lift (index r.1 0) _ r.2) = .err ∨ _
    obtain herr | ⟨value, _, rest, rfl, rfl, hlen⟩ := (take 1).only front back haddr
    · rw [herr]
      exact .inl rfl
    · obtain ⟨b, rfl⟩ := List.length_eq_one_iff.mp hlen
      exact .inr ⟨b, [b], rest, rfl, rfl⟩

theorem getByte : Codec Cursor.getByte (Written fun b => [b]) where
  reads := by
    rintro b _ rfl front rest haddr
    rw [Addressable, List.length_append, List.length_append, List.length_singleton] at haddr
    rw [Cursor.getByte, List.getElem?_append_right le_rfl, Nat.sub_self]
    show (usizeAdd _ _ >>= _) = _
    rw [usizeAdd, if_pos (by omega)]
    rfl
  only front back haddr := by
    rw [Cursor.getByte, List.getElem?_append_right le_rfl, Nat.sub_self]
    cases back with
    | nil => exact .inl rfl
    | cons b rest => exact .inr ⟨b, [b], rest, rfl, rfl⟩

/-- A whole number of a fixed width. -/
theorem word {width : Nat} {ofNat : Nat → α} {toNat : α → Nat}
    (hlt : ∀ a, toNat a < 256 ^ width) (hof : ∀ a, ofNat (toNat a) = a)
    (hto : ∀ n < 256 ^ width, toNat (ofNat n) = n) :
    Codec (Cursor.array width >>= fun block => Pure.pure (ofNat (fromBigEndian block.1)))
      (Written fun a => bigEndian width (toNat a)) := by
  refine (field (array width) fun block => pure _).congr fun a bytes => ?_
  constructor
  · rintro ⟨⟨block, rfl⟩, _, rfl, rfl, rfl⟩
    rw [Written, hto _ (fromBigEndian_lt _), bigEndian_fromBigEndian, List.append_nil]
  · rintro rfl
    refine ⟨⟨_, length_bigEndian _ _⟩, [], (List.append_nil _).symm, ?_, rfl⟩
    rw [fromBigEndian_bigEndian (hlt a), hof]

theorem u16 : Codec Cursor.u16 (Written be16) :=
  word UInt16.toNat_lt (fun _ => UInt16.ofNat_toNat) fun _ => UInt16.toNat_ofNat_of_lt'

theorem u32 : Codec Cursor.u32 (Written be32) :=
  word UInt32.toNat_lt (fun _ => UInt32.ofNat_toNat) fun _ => UInt32.toNat_ofNat_of_lt'

theorem u64 : Codec Cursor.u64 (Written be64) :=
  word UInt64.toNat_lt (fun _ => UInt64.ofNat_toNat) fun _ => UInt64.toNat_ofNat_of_lt'

/-- A whole text: an error, or a value and where its bytes end. -/
theorem run {m : Cursor α} {G : α → Bytes → Prop} (h : Codec m G) {bytes : Bytes}
    (haddr : Addressable bytes) :
    m bytes 0 = .err ∨ ∃ a taken rest, bytes = taken ++ rest ∧ G a taken ∧
      m bytes 0 = .ok (a, taken.length) := by
  obtain herr | ⟨a, taken, rest, rfl, hG⟩ := h.only [] bytes haddr
  · exact .inl herr
  · refine .inr ⟨a, taken, rest, rfl, hG, ?_⟩
    have hread := h.reads hG [] rest haddr
    rwa [List.nil_append, List.length_nil, Nat.zero_add] at hread

/-- What is read to its end. -/
theorem whole_ok_iff {m : Cursor α} {G : α → Bytes → Prop} (h : Codec m G) {bytes : Bytes}
    (haddr : Addressable bytes) (a : α) : m.whole bytes = .ok a ↔ G a bytes := by
  rw [Cursor.whole]
  constructor
  · intro hok
    obtain herr | ⟨b, taken, rest, hbytes, hG, hread⟩ := h.run haddr
    · rw [herr] at hok
      cases hok
    · rw [hread, Outcome.bind_ok] at hok
      dsimp only at hok
      split at hok
      · cases hok
      · rename_i hlen
        cases hok
        rw [not_not, hbytes, List.length_append] at hlen
        have hrest : rest = [] := List.eq_nil_of_length_eq_zero (by omega)
        rw [hbytes, hrest, List.append_nil]
        exact hG
  · intro hG
    have hread := h.reads hG [] [] (by rwa [List.nil_append, List.append_nil])
    rw [List.nil_append, List.append_nil, List.length_nil, Nat.zero_add] at hread
    rw [hread, Outcome.bind_ok]
    exact if_neg fun hne => hne rfl

theorem whole_ne_panic {m : Cursor α} {G : α → Bytes → Prop} (h : Codec m G) {bytes : Bytes}
    (haddr : Addressable bytes) : m.whole bytes ≠ .panic := by
  rw [Cursor.whole]
  obtain herr | ⟨a, taken, rest, -, -, hread⟩ := h.run haddr
  · rw [herr]
    exact fun hpanic => nomatch hpanic
  · rw [hread, Outcome.bind_ok]
    dsimp only
    split
    · exact fun hpanic => nomatch hpanic
    · exact fun hpanic => nomatch hpanic

end Codec

end ByteCodec
