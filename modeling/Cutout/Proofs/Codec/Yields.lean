import Cutout.Codec.Bits
import Cutout.Codec.Exif
import Cutout.Codec.Reading
import Cutout.Image.Source

/-!
# What readers yield

A reader is a chain of steps, each of which can fail. `Yields` says what is known of the value of a
computation that does not, and `Reads` the same of a step that is taken from any state; both are
followed along a chain with `bind`, and with `skip` past the steps that do not matter. The numbers that
are read from a file are bounded by the bytes that they take.
-/

namespace Cutout

/-! ## What comes of a computation -/

section

variable {ε σ α β : Type}

/-- Whatever comes of a computation has a property. -/
def Yields (x : Except ε α) (P : α → Prop) : Prop :=
  ∀ a, x = .ok a → P a

namespace Yields

variable {P : α → Prop} {Q : β → Prop} {x : Except ε α}

theorem error (e : ε) : Yields (.error e) P :=
  fun _ h => nomatch h

theorem ok {a : α} (h : P a) : Yields (.ok a : Except ε α) P :=
  fun _ heq => Except.ok.inj heq ▸ h

theorem bind {f : α → Except ε β} (hx : Yields x P) (hf : ∀ a, P a → Yields (f a) Q) :
    Yields (x >>= f) Q := by
  intro b h
  cases heq : x with
  | error e =>
    rw [heq] at h
    cases h
  | ok a =>
    rw [heq] at h
    exact hf a (hx a heq) b h

/-- A step of which nothing is known. -/
theorem skip {f : α → Except ε β} (hf : ∀ a, Yields (f a) Q) : Yields (x >>= f) Q :=
  bind (P := fun _ => True) (fun _ _ => trivial) fun a _ => hf a

theorem map {f : α → β} (hx : Yields x P) (hf : ∀ a, P a → Q (f a)) : Yields (x.map f) Q := by
  intro b h
  cases heq : x with
  | error e =>
    rw [heq] at h
    cases h
  | ok a =>
    rw [heq] at h
    exact Except.ok.inj h ▸ hf a (hx a heq)

theorem any : Yields x fun _ => True :=
  fun _ _ => trivial

end Yields

/-- Whatever is read, wherever the reading begins, has a property. -/
def Reads (x : StateT σ (Except ε) α) (P : α → Prop) : Prop :=
  ∀ s, Yields (x s) fun r => P r.1

namespace Reads

variable {P : α → Prop} {Q : β → Prop} {x : StateT σ (Except ε) α}

theorem pure {a : α} (h : P a) : Reads (pure a : StateT σ (Except ε) α) P :=
  fun _ => .ok h

theorem bind {f : α → StateT σ (Except ε) β} (hx : Reads x P) (hf : ∀ a, P a → Reads (f a) Q) :
    Reads (x >>= f) Q :=
  fun s => (hx s).bind fun r hr => hf r.1 hr r.2

/-- A step of which nothing is known. -/
theorem skip {f : α → StateT σ (Except ε) β} (hf : ∀ a, Reads (f a) Q) : Reads (x >>= f) Q :=
  bind (P := fun _ => True) (fun _ _ _ => trivial) fun a _ => hf a

end Reads

end

theorem reads_fail {α : Type} {P : α → Prop} (f : ImageFault) : Reads (Reading.fail f) P :=
  fun _ => .error f

/-! ## Numbers -/

theorem Bytes.toNatLE_lt (b : Bytes) : toNatLE b < Nat.pow 256 b.length := by
  induction b with
  | nil => exact Nat.one_pos
  | cons x b ih =>
    have hx : x.toNat < 256 := x.toNat_lt
    have hpow : Nat.pow 256 (b.length + 1) = Nat.pow 256 b.length * 256 := rfl
    rw [toNatLE, List.length_cons, hpow]
    omega

theorem Bytes.toNatBE_lt (b : Bytes) : toNatBE b < Nat.pow 256 b.length := by
  have h := toNatLE_lt b.reverse
  rwa [← toNatBE_reverse, List.reverse_reverse, List.length_reverse] at h

theorem Bytes.length_of_take? {n : Nat} {b front rest : Bytes} (h : take? n b = some (front, rest)) :
    front.length = n :=
  (eq_append_of_take? h).2

theorem reads_little (short : ImageFault) (n : Nat) :
    Reads (Reading.little short n) (· < Nat.pow 256 n) := by
  have hbytes : Reads (Reading.bytes short n) fun b => b.length = n := by
    intro b
    unfold Reading.bytes
    split
    · next r hr => exact .ok (Bytes.length_of_take? hr)
    · exact .error short
  refine hbytes.bind fun b hb => ?_
  have h := Bytes.toNatLE_lt b
  rw [hb] at h
  exact .pure h

theorem Exif.ByteOrder.number_lt (o : ByteOrder) (b : Bytes) : o.number b < Nat.pow 256 b.length := by
  cases o with
  | little => exact Bytes.toNatLE_lt b
  | big => exact Bytes.toNatBE_lt b

theorem IsSide.of_lt {n k : Nat} (h : n < Nat.pow 256 k) (hk : k ≤ 4) : IsSide n :=
  Nat.lt_of_lt_of_le h (Nat.pow_le_pow_right (by decide) hk)

/-- A side that is stored without one of its columns or rows, of which there is always one. -/
theorem IsSide.succ {n k : Nat} (h : n < Nat.pow 256 k) (hk : k ≤ 3) : IsSide (n + 1) := by
  have hpow : Nat.pow 256 k ≤ 16777216 := Nat.pow_le_pow_right (by decide) hk
  unfold IsSide
  omega

theorem Bits.lowNumber?_lt {n v : Nat} {b rest : Bits} (h : b.lowNumber? n = some (v, rest)) :
    v < Nat.pow 2 n := by
  induction n generalizing b v rest with
  | zero =>
    obtain ⟨rfl, -⟩ := Prod.mk.inj (Option.some.inj h)
    exact Nat.one_pos
  | succ n ih =>
    unfold Bits.lowNumber? at h
    split at h
    · cases h
    next x b' _ =>
    split at h
    · cases h
    next r b'' hr =>
    obtain ⟨rfl, -⟩ := Prod.mk.inj (Option.some.inj h)
    have hbit : x.toNat ≤ 1 := by cases x <;> decide
    have hrest := ih hr
    have hpow : Nat.pow 2 (n + 1) = Nat.pow 2 n * 2 := rfl
    rw [hpow]
    omega

end Cutout
