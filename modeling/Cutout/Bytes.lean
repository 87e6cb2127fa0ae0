/-!
# Byte strings

Everything that crosses the edge of the service (request bodies, encoded images, configuration
files) is a list of bytes. Fixed-width numbers are read and written here, most or least significant
byte first.
-/

namespace Cutout

/-- A byte string. -/
abbrev Bytes := List UInt8

namespace Bytes

/-- The bytes of an ASCII text, one per character. -/
def ofAscii (s : String) : Bytes :=
  s.toList.map fun c => UInt8.ofNat c.toNat

/-- The UTF-8 form of a text. -/
def ofText (s : String) : Bytes :=
  s.toList.flatMap String.utf8EncodeChar

/-- The number whose base-256 digits, most significant first, are these bytes. -/
def toNatBE (b : Bytes) : Nat :=
  b.foldl (fun n x => n * 256 + x.toNat) 0

/-- The number whose base-256 digits, least significant first, are these bytes. -/
def toNatLE : Bytes → Nat
  | [] => 0
  | x :: r => x.toNat + 256 * toNatLE r

/-- The `width` low base-256 digits of a number, least significant first. -/
def ofNatLE : (width : Nat) → Nat → Bytes
  | 0, _ => []
  | w + 1, n => UInt8.ofNat (n % 256) :: ofNatLE w (n / 256)

/-- The `width` low base-256 digits of a number, most significant first. -/
def ofNatBE (width n : Nat) : Bytes :=
  (ofNatLE width n).reverse

/-- Split off the first `n` bytes, if there are as many. -/
def take? (n : Nat) (b : Bytes) : Option (Bytes × Bytes) :=
  let front := b.take n
  if front.length = n then some (front, b.drop n) else none

/-- What follows `lead`, if the bytes begin with it. -/
def after? : (lead b : Bytes) → Option Bytes
  | [], b => some b
  | _ :: _, [] => none
  | x :: lead, y :: b => if x = y then after? lead b else none

/-- The bytes begin with `lead`. -/
def startsWith (b lead : Bytes) : Bool :=
  (after? lead b).isSome

/-- Search for `mark` with the bytes already passed in `seen`, latest first. -/
def cutFrom (mark : Bytes) (seen : Bytes) : Bytes → Option (Bytes × Bytes)
  | [] => if mark.isEmpty then some (seen.reverse, []) else none
  | x :: b =>
    match after? mark (x :: b) with
    | some rest => some (seen.reverse, rest)
    | none => cutFrom mark (x :: seen) b

/-- Cut at the first place where `mark` stands: what is before it and what is after it. -/
def cut? (mark b : Bytes) : Option (Bytes × Bytes) :=
  cutFrom mark [] b

theorem length_ofNatLE (w n : Nat) : (ofNatLE w n).length = w := by
  induction w generalizing n with
  | zero => rfl
  | succ w ih => simp [ofNatLE, ih]

@[simp] theorem length_ofNatBE (w n : Nat) : (ofNatBE w n).length = w := by
  simp [ofNatBE, length_ofNatLE]

theorem toNatLE_ofNatLE (w n : Nat) : toNatLE (ofNatLE w n) = n % Nat.pow 256 w := by
  induction w generalizing n with
  | zero => simp [ofNatLE, toNatLE, Nat.mod_one]
  | succ w ih =>
    have h : (UInt8.ofNat (n % 256)).toNat = n % 256 := by simp
    have step : Nat.pow 256 (w + 1) = 256 * Nat.pow 256 w := Nat.mul_comm _ _
    rw [ofNatLE, toNatLE, ih, h, step, Nat.mod_mul]

/-- The most significant byte comes first where the least significant one came last. -/
theorem toNatBE_reverse (b : Bytes) : toNatBE b.reverse = toNatLE b := by
  unfold toNatBE
  rw [List.foldl_reverse]
  induction b with
  | nil => rfl
  | cons x b ih => rw [List.foldr_cons, ih, toNatLE, Nat.mul_comm, Nat.add_comm]

theorem toNatBE_ofNatBE {w n : Nat} (h : n < Nat.pow 256 w) : toNatBE (ofNatBE w n) = n := by
  rw [ofNatBE, toNatBE_reverse, toNatLE_ofNatLE, Nat.mod_eq_of_lt h]

@[simp] theorem after?_append (lead b : Bytes) : after? lead (lead ++ b) = some b := by
  induction lead with
  | nil => cases b <;> rfl
  | cons x lead ih => simp [after?, ih]

/-- What has been written is split off again, whatever follows. -/
theorem take?_append {a : Bytes} {n : Nat} (h : a.length = n) (b : Bytes) :
    take? n (a ++ b) = some (a, b) := by
  subst h
  simp [take?]

/-- What is split off and what is left are all there was. -/
theorem eq_append_of_take? {n : Nat} {b front rest : Bytes} (h : take? n b = some (front, rest)) :
    b = front ++ rest ∧ front.length = n := by
  rw [take?] at h
  split at h
  · next hn =>
    obtain ⟨rfl, rfl⟩ := Prod.mk.inj (Option.some.inj h)
    exact ⟨(List.take_append_drop n b).symm, hn⟩
  · exact absurd h (by simp)

/-- A lead and what follows it are all there was. -/
theorem eq_append_of_after? {lead b rest : Bytes} (h : after? lead b = some rest) :
    b = lead ++ rest := by
  induction lead generalizing b with
  | nil => exact Option.some.inj h
  | cons x lead ih =>
    cases b with
    | nil => exact absurd h (by simp [after?])
    | cons y b =>
      rw [after?] at h
      split at h
      · next hxy => rw [hxy, ih h, List.cons_append]
      · exact absurd h (by simp)

theorem eq_append_of_cutFrom {mark seen b before rest : Bytes}
    (h : cutFrom mark seen b = some (before, rest)) :
    seen.reverse ++ b = before ++ mark ++ rest := by
  induction b generalizing seen with
  | nil =>
    rw [cutFrom] at h
    split at h
    · next hm =>
      obtain ⟨rfl, rfl⟩ := Prod.mk.inj (Option.some.inj h)
      simp [List.isEmpty_iff.1 hm]
    · exact absurd h (by simp)
  | cons x b ih =>
    rw [cutFrom] at h
    split at h
    · next r hr =>
      obtain ⟨rfl, rfl⟩ := Prod.mk.inj (Option.some.inj h)
      rw [eq_append_of_after? hr, List.append_assoc]
    · rw [← ih h, List.reverse_cons, List.append_assoc]
      rfl

/-- The mark and what is on both sides of it are all there was. -/
theorem eq_append_of_cut? {mark b before rest : Bytes} (h : cut? mark b = some (before, rest)) :
    b = before ++ mark ++ rest :=
  eq_append_of_cutFrom h

end Bytes

end Cutout
