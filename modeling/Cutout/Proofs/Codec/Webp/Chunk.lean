import Cutout.Codec.Webp.Encode
import Cutout.Proofs.Codec.Yields

/-!
# Chunks are found again

`Gives` says that a step of reading takes some bytes and gives a value, whatever follows them; it is
followed along a chain of steps with `bind`. The common header and the head of a chunk are read as they
were written, and the chunks behind the header are those of the file (`chunks_flatMap`).
-/

namespace Cutout

/-! ## Steps of reading -/

/-- A step takes these bytes and gives this value. -/
def Gives {α : Type} (read : Reading α) (front : Bytes) (a : α) : Prop :=
  ∀ rest, read (front ++ rest) = .ok (a, rest)

namespace Gives

variable {α β : Type}

theorem pure (a : α) : Gives (pure a) [] a :=
  fun _ => rfl

theorem bind {read : Reading α} {next : α → Reading β} {front front' : Bytes} {a : α} {b : β}
    (h : Gives read front a) (h' : Gives (next a) front' b) :
    Gives (read >>= next) (front ++ front') b := by
  intro rest
  rw [List.append_assoc]
  show (read (front ++ (front' ++ rest))).bind (fun r => next r.1 r.2) = _
  rw [h]
  exact h' rest

/-- The last step of a chain. -/
theorem bind_last {read : Reading α} {next : α → Reading β} {front : Bytes} {a : α} {b : β}
    (h : Gives read front a) (h' : Gives (next a) [] b) : Gives (read >>= next) front b := by
  have hboth := h.bind h'
  rwa [List.append_nil] at hboth

theorem bind_pure {read : Reading α} {f : α → β} {front : Bytes} {a : α} (h : Gives read front a) :
    Gives (do let x ← read; return f x) front (f a) :=
  h.bind_last (pure (f a))

end Gives

theorem gives_bytes (short : ImageFault) {front : Bytes} {n : Nat} (h : front.length = n) :
    Gives (Reading.bytes short n) front front := by
  intro rest
  unfold Reading.bytes
  rw [Bytes.take?_append h]

theorem gives_byte (short : ImageFault) (x : UInt8) : Gives (Reading.byte short) [x] x.toNat :=
  fun _ => rfl

theorem gives_little (short : ImageFault) {n width : Nat} (h : n < Nat.pow 256 width) :
    Gives (Reading.little short width) (Bytes.ofNatLE width n) n := by
  have hnumber : Bytes.toNatLE (Bytes.ofNatLE width n) = n := by
    rw [Bytes.toNatLE_ofNatLE, Nat.mod_eq_of_lt h]
  have hread := (gives_bytes short (Bytes.length_ofNatLE width n)).bind_pure (f := Bytes.toNatLE)
  rwa [hnumber] at hread

namespace Webp

/-! ## Chunks -/

/-- A chunk whose name has four letters and whose length has four bytes. -/
structure Chunk.Fits (c : Chunk) : Prop where
  name : c.name.length = 4
  data : c.data.length < 4294967296

/-- What fills up a chunk. -/
def Chunk.filling (c : Chunk) : Bytes :=
  List.replicate (c.data.length % 2) 0

theorem gives_chunkHead {c : Chunk} (h : c.Fits) :
    Gives chunkHead (c.name ++ Bytes.ofNatLE 4 c.data.length) (c.name, c.data.length) :=
  (gives_bytes .truncated h.name).bind (gives_little .truncated h.data).bind_pure

/-- The head of a chunk is read, and its data come next. -/
theorem chunkHead_bytes {c : Chunk} (h : c.Fits) (rest : Bytes) :
    chunkHead (c.bytes ++ rest) =
      .ok ((c.name, c.data.length), c.data ++ (c.filling ++ rest)) := by
  have hbytes : c.bytes ++ rest = c.name ++ Bytes.ofNatLE 4 c.data.length ++
      (c.data ++ (c.filling ++ rest)) := by
    simp only [Chunk.bytes, Chunk.filling, List.append_assoc]
  rw [hbytes, gives_chunkHead h]

/-- Behind the data of a chunk and what fills it up there is what follows it. -/
theorem drop_filled (c : Chunk) (rest : Bytes) :
    (c.data ++ (c.filling ++ rest)).drop (c.data.length + c.data.length % 2) = rest := by
  have hlength : (c.data ++ c.filling).length = c.data.length + c.data.length % 2 := by
    rw [List.length_append, Chunk.filling, List.length_replicate]
  rw [← List.append_assoc, ← hlength, List.drop_left]

theorem chunksFrom_flatMap {cs : List Chunk} (h : ∀ c ∈ cs, c.Fits) {fuel : Nat}
    (hfuel : cs.length ≤ fuel) : chunksFrom fuel (cs.flatMap Chunk.bytes) = cs := by
  induction cs generalizing fuel with
  | nil => cases fuel <;> rfl
  | cons c cs ih =>
    obtain ⟨fuel, rfl⟩ : ∃ k, fuel = k + 1 := ⟨fuel - 1, by rw [List.length_cons] at hfuel; omega⟩
    have hrest := ih (fun d hd => h d (List.mem_cons_of_mem _ hd)) (Nat.le_of_succ_le_succ hfuel)
    rw [List.flatMap_cons, chunksFrom, chunkHead_bytes (h c List.mem_cons_self)]
    show ⟨c.name, List.take c.data.length _⟩ :: chunksFrom fuel (List.drop _ _) = c :: cs
    rw [List.take_left, drop_filled, hrest]

theorem length_le_length_flatMap {cs : List Chunk} (h : ∀ c ∈ cs, c.Fits) :
    cs.length ≤ (cs.flatMap Chunk.bytes).length := by
  induction cs with
  | nil => exact Nat.le_refl 0
  | cons c cs ih =>
    have hrest := ih fun d hd => h d (List.mem_cons_of_mem _ hd)
    have hname := (h c List.mem_cons_self).name
    rw [List.flatMap_cons, List.length_append, List.length_cons, Chunk.bytes]
    simp only [List.length_append, hname]
    omega

/-- **The chunks of a file are found** as they were written. -/
theorem chunks_flatMap {cs : List Chunk} (h : ∀ c ∈ cs, c.Fits) :
    chunks (cs.flatMap Chunk.bytes) = cs :=
  chunksFrom_flatMap h (length_le_length_flatMap h)

theorem completeFrom_flatMap {cs : List Chunk} (h : ∀ c ∈ cs, c.Fits) (name : Name) {fuel : Nat}
    (hfuel : cs.length ≤ fuel) :
    completeFrom name fuel (cs.flatMap Chunk.bytes) = .ok (find? cs name) := by
  induction cs generalizing fuel with
  | nil => cases fuel <;> rfl
  | cons c cs ih =>
    obtain ⟨fuel, rfl⟩ : ∃ k, fuel = k + 1 := ⟨fuel - 1, by rw [List.length_cons] at hfuel; omega⟩
    have hrest := ih (fun d hd => h d (List.mem_cons_of_mem _ hd)) (Nat.le_of_succ_le_succ hfuel)
    rw [List.flatMap_cons, completeFrom, chunkHead_bytes (h c List.mem_cons_self)]
    dsimp only
    by_cases hname : c.name = name
    · rw [if_pos hname, gives_bytes .truncated rfl]
      simp [Except.map, find?, hname]
    · rw [if_neg hname, drop_filled, hrest]
      simp [find?, hname]

/-- The chunks of a file that is written are there to their end. -/
theorem complete_flatMap {cs : List Chunk} (h : ∀ c ∈ cs, c.Fits) (name : Name) :
    complete name (cs.flatMap Chunk.bytes) = .ok (find? cs name) :=
  completeFrom_flatMap h name (length_le_length_flatMap h)

/-- The common header is read, and the chunks come next. -/
theorem content_fileOf (cs : List Chunk) : content (fileOf cs) = .ok ((), cs.flatMap Chunk.bytes) := by
  have hnames : riffName.length = 4 ∧ webpName.length = 4 := ⟨rfl, rfl⟩
  have hgives (n : Nat) :
      Gives content (riffName ++ (Bytes.ofNatLE 4 n ++ webpName)) () := by
    refine (gives_bytes _ hnames.1).bind ((gives_bytes _ (Bytes.length_ofNatLE 4 n)).bind
      ((gives_bytes _ hnames.2).bind_last ?_))
    rw [if_pos ⟨rfl, rfl⟩]
    exact .pure ()
  have hfile : fileOf cs = riffName ++ (Bytes.ofNatLE 4 (webpName ++ cs.flatMap Chunk.bytes).length ++
      webpName) ++ cs.flatMap Chunk.bytes := by
    simp only [fileOf, List.append_assoc]
  rw [hfile]
  exact hgives _ _

/-- A file begins like one of this format. -/
theorem sniff_fileOf (cs : List Chunk) : ImageFormat.sniff (fileOf cs) = some .webp := by
  unfold fileOf
  rfl

end Webp

end Cutout
