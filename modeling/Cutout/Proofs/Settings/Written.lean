import Cutout.Proofs.Settings.Loading
import Cutout.Proofs.Yaml.Record

/-!
# Settings as they are written

The keys that settings can have, section by section, with the kind of value of each. Lines in any order,
with unknown keys and lines without content among them, are read as the settings that they tell
(`Settings.Tells`): what is listed is taken over exactly, and what is not has its default. The only lines
that are refused are those that repeat a key or give a number that its member cannot hold
(`Settings.IsSound`), so that no number is ever changed to fit.
-/

namespace Cutout

open Yaml

/-- An integer that a number without a sign of so many bits can hold. -/
def FitsBits (bits : Nat) (n : Int) : Prop :=
  0 ≤ n ∧ n < 2 ^ bits

instance {bits : Nat} : DecidablePred (FitsBits bits) :=
  fun n => inferInstanceAs (Decidable (0 ≤ n ∧ n < 2 ^ bits))

/-- A number without a sign is the integer that it was read from. -/
theorem elim_toNat {o : Option Int} (d : Nat) (h : ∀ n, o = some n → 0 ≤ n) :
    ((o.elim d Int.toNat : Nat) : Int) = o.elim (d : Int) fun n => n := by
  cases o with
  | none => rfl
  | some n => exact Int.toNat_of_nonneg (h n rfl)

/-! ## Log settings -/

namespace LogSettings

/-- The keys of the log settings. -/
inductive Key where
  | level
  deriving DecidableEq

/-- How log settings are written. -/
@[reducible]
def vocabulary : Vocabulary where
  Key := Key
  decEq := inferInstance
  all := [.level]
  mem_all k := by cases k; decide
  name
    | .level => ⟨"level", by decide +kernel⟩
  nodup := by decide
  Value
    | .level => Quotable
  node
    | .level, t => .leaf (.text t)

/-- How the keys of the log settings are read. -/
def meaning : Meaning vocabulary LogSettings where
  record := record
  Field
    | .level => String
  reader
    | .level => Reader.text "a string"
  get
    | .level => LogSettings.level
  put
    | .level => fun v s => { s with level := v }
  get_put k _ _ := by cases k; rfl
  get_put_of_ne k k' _ _ h := by cases k; cases k'; exact absurd rfl h
  members := rfl
  value
    | .level, t => t.text
  Fits _ _ := True
  reads
    | .level, t => Reader.reads_text "a string" t

variable {lines : List (Line vocabulary)}

/-- Lines of log settings that can be read. -/
@[mk_iff]
structure IsSound (lines : List (Line vocabulary)) : Prop where
  distinct : (Vocabulary.keys lines).Nodup

instance : Decidable (IsSound lines) :=
  decidable_of_iff' _ (isSound_iff lines)

/-- The log settings are what some lines say, and the default where they say nothing. -/
structure Tells (s : LogSettings) (lines : List (Line vocabulary)) : Prop where
  level : s.level = (Vocabulary.find Key.level lines).elim "info" Quotable.text

theorem legible_iff : meaning.Legible [] lines ↔ IsSound lines :=
  ⟨fun h => ⟨h.nodup⟩, fun h => ⟨h.distinct, by simp, fun _ _ _ => trivial⟩⟩

theorem tells_result (h : IsSound lines) : (meaning.result lines).Tells lines where
  level := meaning.get_result Key.level h.distinct

end LogSettings

/-! ## Server settings -/

namespace ServerSettings

/-- The keys of the server settings. -/
inductive Key where
  | host | port | maxBodyBytes | logs
  deriving DecidableEq

/-- How server settings are written. -/
@[reducible]
def vocabulary : Vocabulary where
  Key := Key
  decEq := inferInstance
  all := [.host, .port, .maxBodyBytes, .logs]
  mem_all k := by cases k <;> decide
  name
    | .host => ⟨"host", by decide +kernel⟩
    | .port => ⟨"port", by decide +kernel⟩
    | .maxBodyBytes => ⟨"max_body_bytes", by decide +kernel⟩
    | .logs => ⟨"logs", by decide +kernel⟩
  nodup := by decide
  Value
    | .host => Quotable
    | .port => Int
    | .maxBodyBytes => Int
    | .logs => Yaml.Section LogSettings.vocabulary
  node
    | .host, t => .leaf (.text t)
    | .port, n => .leaf (.number n)
    | .maxBodyBytes, n => .leaf (.number n)
    | .logs, s => .block s.further (Vocabulary.block s.lines)

/-- How the keys of the server settings are read. -/
def meaning : Meaning vocabulary ServerSettings where
  record := record
  Field
    | .host => String
    | .port => Nat
    | .maxBodyBytes => Nat
    | .logs => LogSettings
  reader
    | .host => Reader.text "a string"
    | .port => Reader.natural 16 "u16"
    | .maxBodyBytes => Reader.natural 64 "usize"
    | .logs => LogSettings.record.read
  get
    | .host => ServerSettings.host
    | .port => ServerSettings.port
    | .maxBodyBytes => ServerSettings.maxBodyBytes
    | .logs => ServerSettings.logs
  put
    | .host => fun v s => { s with host := v }
    | .port => fun v s => { s with port := v }
    | .maxBodyBytes => fun v s => { s with maxBodyBytes := v }
    | .logs => fun v s => { s with logs := v }
  get_put k _ _ := by cases k <;> rfl
  get_put_of_ne k k' _ _ h := by cases k <;> cases k' <;> first | rfl | exact absurd rfl h
  members := rfl
  value
    | .host, t => t.text
    | .port, n => n.toNat
    | .maxBodyBytes, n => n.toNat
    | .logs, l => LogSettings.meaning.result l.lines
  Fits
    | .host, _ => True
    | .port, n => FitsBits 16 n
    | .maxBodyBytes, n => FitsBits 64 n
    | .logs, l => LogSettings.meaning.Legible [] l.lines
  reads
    | .host, t => Reader.reads_text "a string" t
    | .port, n => Reader.reads_natural 16 "u16" n
    | .maxBodyBytes, n => Reader.reads_natural 64 "usize" n
    | .logs, l => LogSettings.meaning.reads_section l.further l.lines

variable {lines : List (Line vocabulary)}

/-- Lines of server settings that can be read. -/
@[mk_iff]
structure IsSound (lines : List (Line vocabulary)) : Prop where
  distinct : (Vocabulary.keys lines).Nodup
  port : ∀ n, Line.known Key.port n ∈ lines → FitsBits 16 n
  maxBodyBytes : ∀ n, Line.known Key.maxBodyBytes n ∈ lines → FitsBits 64 n
  logs : ∀ l, Line.known Key.logs l ∈ lines → LogSettings.IsSound l.lines

instance : Decidable (IsSound lines) :=
  haveI := Vocabulary.decideKnown (V := vocabulary) Key.port (FitsBits 16) lines
  haveI := Vocabulary.decideKnown (V := vocabulary) Key.maxBodyBytes (FitsBits 64) lines
  haveI := Vocabulary.decideKnown (V := vocabulary) Key.logs (LogSettings.IsSound ·.lines) lines
  decidable_of_iff' _ (isSound_iff lines)

/-- The lines of the log settings among those of the server settings. -/
def logLines (lines : List (Line vocabulary)) : List (Line LogSettings.vocabulary) :=
  (Vocabulary.find Key.logs lines).elim [] Yaml.Section.lines

/-- The server settings are what some lines say, and the defaults where they say nothing. -/
structure Tells (s : ServerSettings) (lines : List (Line vocabulary)) : Prop where
  host : s.host = (Vocabulary.find Key.host lines).elim "0.0.0.0" Quotable.text
  port : s.port = (Vocabulary.find Key.port lines).elim 5000 fun n : Int => n
  maxBodyBytes : s.maxBodyBytes = (Vocabulary.find Key.maxBodyBytes lines).elim 52428800 fun n : Int => n
  logs : s.logs.Tells (logLines lines)

theorem legible_iff : meaning.Legible [] lines ↔ IsSound lines := by
  constructor
  · exact fun h => ⟨h.nodup, h.fits .port, h.fits .maxBodyBytes,
      fun l hl => LogSettings.legible_iff.1 (h.fits .logs l hl)⟩
  · refine fun h => ⟨h.distinct, by simp, fun k v hv => ?_⟩
    cases k with
    | host => trivial
    | port => exact h.port v hv
    | maxBodyBytes => exact h.maxBodyBytes v hv
    | logs => exact LogSettings.legible_iff.2 (h.logs v hv)

theorem tells_result (h : IsSound lines) : (meaning.result lines).Tells lines where
  host := meaning.get_result Key.host h.distinct
  port := by
    have hget : (meaning.result lines).port = (Vocabulary.find Key.port lines).elim 5000 Int.toNat :=
      meaning.get_result Key.port h.distinct
    rw [hget]
    exact elim_toNat 5000 fun n hn => (h.port n (Vocabulary.mem_of_find hn)).1
  maxBodyBytes := by
    have hget : (meaning.result lines).maxBodyBytes =
        (Vocabulary.find Key.maxBodyBytes lines).elim 52428800 Int.toNat :=
      meaning.get_result Key.maxBodyBytes h.distinct
    rw [hget]
    exact elim_toNat 52428800 fun n hn => (h.maxBodyBytes n (Vocabulary.mem_of_find hn)).1
  logs := by
    have hget : (meaning.result lines).logs =
        (Vocabulary.find Key.logs lines).elim {} (meaning.value Key.logs) :=
      meaning.get_result Key.logs h.distinct
    rw [hget, logLines]
    cases hfind : Vocabulary.find Key.logs lines with
    | none => exact ⟨rfl⟩
    | some l => exact LogSettings.tells_result (h.logs l (Vocabulary.mem_of_find hfind))

end ServerSettings

/-! ## Model settings -/

namespace ModelSettings

/-- The keys of the model settings. -/
inductive Key where
  | name | path | inputSize | cleanMatte | threads
  deriving DecidableEq

/-- How model settings are written. -/
@[reducible]
def vocabulary : Vocabulary where
  Key := Key
  decEq := inferInstance
  all := [.name, .path, .inputSize, .cleanMatte, .threads]
  mem_all k := by cases k <;> decide
  name
    | .name => ⟨"name", by decide +kernel⟩
    | .path => ⟨"path", by decide +kernel⟩
    | .inputSize => ⟨"input_size", by decide +kernel⟩
    | .cleanMatte => ⟨"post_process_mask", by decide +kernel⟩
    | .threads => ⟨"intra_threads", by decide +kernel⟩
  nodup := by decide
  Value
    | .name => Quotable
    | .path => Quotable
    | .inputSize => Int
    | .cleanMatte => Bool
    | .threads => Int
  node
    | .name, t => .leaf (.text t)
    | .path, t => .leaf (.text t)
    | .inputSize, n => .leaf (.number n)
    | .cleanMatte, b => .leaf (.truth b)
    | .threads, n => .leaf (.number n)

/-- How the keys of the model settings are read. -/
def meaning : Meaning vocabulary ModelSettings where
  record := record
  Field
    | .name => String
    | .path => Option String
    | .inputSize => Nat
    | .cleanMatte => Bool
    | .threads => Option Nat
  reader
    | .name => Reader.text "a string"
    | .path => (Reader.text "path string").optional
    | .inputSize => Reader.natural 32 "u32"
    | .cleanMatte => Reader.boolean
    | .threads => (Reader.natural 64 "usize").optional
  get
    | .name => ModelSettings.name
    | .path => ModelSettings.path
    | .inputSize => ModelSettings.inputSize
    | .cleanMatte => ModelSettings.cleanMatte
    | .threads => ModelSettings.threads
  put
    | .name => fun v s => { s with name := v }
    | .path => fun v s => { s with path := v }
    | .inputSize => fun v s => { s with inputSize := v }
    | .cleanMatte => fun v s => { s with cleanMatte := v }
    | .threads => fun v s => { s with threads := v }
  get_put k _ _ := by cases k <;> rfl
  get_put_of_ne k k' _ _ h := by cases k <;> cases k' <;> first | rfl | exact absurd rfl h
  members := rfl
  value
    | .name, t => t.text
    | .path, t => some t.text
    | .inputSize, n => n.toNat
    | .cleanMatte, b => b
    | .threads, n => some n.toNat
  Fits
    | .name, _ => True
    | .path, _ => True
    | .inputSize, n => FitsBits 32 n
    | .cleanMatte, _ => True
    | .threads, n => FitsBits 64 n
  reads
    | .name, t => Reader.reads_text "a string" t
    | .path, t => (Reader.reads_text "path string" t).optional (Reader.isAbsence_text t)
    | .inputSize, n => Reader.reads_natural 32 "u32" n
    | .cleanMatte, b => Reader.reads_boolean b
    | .threads, n => (Reader.reads_natural 64 "usize" n).optional (Reader.isAbsence_number n)

variable {lines : List (Line vocabulary)}

/-- Lines of model settings that can be read. -/
@[mk_iff]
structure IsSound (lines : List (Line vocabulary)) : Prop where
  distinct : (Vocabulary.keys lines).Nodup
  inputSize : ∀ n, Line.known Key.inputSize n ∈ lines → FitsBits 32 n
  threads : ∀ n, Line.known Key.threads n ∈ lines → FitsBits 64 n

instance : Decidable (IsSound lines) :=
  haveI := Vocabulary.decideKnown (V := vocabulary) Key.inputSize (FitsBits 32) lines
  haveI := Vocabulary.decideKnown (V := vocabulary) Key.threads (FitsBits 64) lines
  decidable_of_iff' _ (isSound_iff lines)

/-- The model settings are what some lines say, and the defaults where they say nothing. -/
structure Tells (s : ModelSettings) (lines : List (Line vocabulary)) : Prop where
  name : s.name = (Vocabulary.find Key.name lines).elim "silueta" Quotable.text
  path : s.path = (Vocabulary.find Key.path lines).map Quotable.text
  inputSize : s.inputSize = (Vocabulary.find Key.inputSize lines).elim 320 fun n : Int => n
  cleanMatte : s.cleanMatte = (Vocabulary.find Key.cleanMatte lines).elim true fun b : Bool => b
  threads : s.threads.map Int.ofNat = Vocabulary.find Key.threads lines

theorem legible_iff : meaning.Legible [] lines ↔ IsSound lines := by
  constructor
  · exact fun h => ⟨h.nodup, h.fits .inputSize, h.fits .threads⟩
  · refine fun h => ⟨h.distinct, by simp, fun k v hv => ?_⟩
    cases k with
    | name => trivial
    | path => trivial
    | inputSize => exact h.inputSize v hv
    | cleanMatte => trivial
    | threads => exact h.threads v hv

theorem tells_result (h : IsSound lines) : (meaning.result lines).Tells lines where
  name := meaning.get_result Key.name h.distinct
  path := by
    have hget : (meaning.result lines).path =
        (Vocabulary.find Key.path lines).elim none (meaning.value Key.path) :=
      meaning.get_result Key.path h.distinct
    rw [hget]
    cases Vocabulary.find Key.path lines <;> rfl
  inputSize := by
    have hget : (meaning.result lines).inputSize = (Vocabulary.find Key.inputSize lines).elim 320 Int.toNat :=
      meaning.get_result Key.inputSize h.distinct
    rw [hget]
    exact elim_toNat 320 fun n hn => (h.inputSize n (Vocabulary.mem_of_find hn)).1
  cleanMatte := meaning.get_result Key.cleanMatte h.distinct
  threads := by
    have hget : (meaning.result lines).threads =
        (Vocabulary.find Key.threads lines).elim none (meaning.value Key.threads) :=
      meaning.get_result Key.threads h.distinct
    rw [hget]
    cases hfind : Vocabulary.find Key.threads lines with
    | none => rfl
    | some n => exact congrArg some (Int.toNat_of_nonneg (h.threads n (Vocabulary.mem_of_find hfind)).1)

end ModelSettings

/-! ## All settings -/

namespace Settings

/-- The sections of the settings. -/
inductive Key where
  | server | model
  deriving DecidableEq

/-- How settings are written. -/
@[reducible]
def vocabulary : Vocabulary where
  Key := Key
  decEq := inferInstance
  all := [.server, .model]
  mem_all k := by cases k <;> decide
  name
    | .server => ⟨"server", by decide +kernel⟩
    | .model => ⟨"model", by decide +kernel⟩
  nodup := by decide
  Value
    | .server => Yaml.Section ServerSettings.vocabulary
    | .model => Yaml.Section ModelSettings.vocabulary
  node
    | .server, s => .block s.further (Vocabulary.block s.lines)
    | .model, s => .block s.further (Vocabulary.block s.lines)

/-- How the sections of the settings are read. -/
def meaning : Meaning vocabulary Settings where
  record := record
  Field
    | .server => ServerSettings
    | .model => ModelSettings
  reader
    | .server => ServerSettings.record.read
    | .model => ModelSettings.record.read
  get
    | .server => Settings.server
    | .model => Settings.model
  put
    | .server => fun v s => { s with server := v }
    | .model => fun v s => { s with model := v }
  get_put k _ _ := by cases k <;> rfl
  get_put_of_ne k k' _ _ h := by cases k <;> cases k' <;> first | rfl | exact absurd rfl h
  members := rfl
  value
    | .server, l => ServerSettings.meaning.result l.lines
    | .model, l => ModelSettings.meaning.result l.lines
  Fits
    | .server, l => ServerSettings.meaning.Legible [] l.lines
    | .model, l => ModelSettings.meaning.Legible [] l.lines
  reads
    | .server, l => ServerSettings.meaning.reads_section l.further l.lines
    | .model, l => ModelSettings.meaning.reads_section l.further l.lines

variable {lines : List (Line vocabulary)}

/-- Lines of settings that can be read: no key is repeated in its section, and every number fits into
the bits of its member. -/
@[mk_iff]
structure IsSound (lines : List (Line vocabulary)) : Prop where
  distinct : (Vocabulary.keys lines).Nodup
  server : ∀ l, Line.known Key.server l ∈ lines → ServerSettings.IsSound l.lines
  model : ∀ l, Line.known Key.model l ∈ lines → ModelSettings.IsSound l.lines

instance : Decidable (IsSound lines) :=
  haveI := Vocabulary.decideKnown (V := vocabulary) Key.server (ServerSettings.IsSound ·.lines) lines
  haveI := Vocabulary.decideKnown (V := vocabulary) Key.model (ModelSettings.IsSound ·.lines) lines
  decidable_of_iff' _ (isSound_iff lines)

/-- The lines of the server settings. -/
def serverLines (lines : List (Line vocabulary)) : List (Line ServerSettings.vocabulary) :=
  (Vocabulary.find Key.server lines).elim [] Yaml.Section.lines

/-- The lines of the model settings. -/
def modelLines (lines : List (Line vocabulary)) : List (Line ModelSettings.vocabulary) :=
  (Vocabulary.find Key.model lines).elim [] Yaml.Section.lines

/-- The settings are what some lines say, and the defaults where they say nothing. -/
structure Tells (s : Settings) (lines : List (Line vocabulary)) : Prop where
  server : s.server.Tells (serverLines lines)
  model : s.model.Tells (modelLines lines)

theorem legible_iff : meaning.Legible [] lines ↔ IsSound lines := by
  constructor
  · exact fun h => ⟨h.nodup, fun l hl => ServerSettings.legible_iff.1 (h.fits .server l hl),
      fun l hl => ModelSettings.legible_iff.1 (h.fits .model l hl)⟩
  · refine fun h => ⟨h.distinct, by simp, fun k v hv => ?_⟩
    cases k with
    | server => exact ServerSettings.legible_iff.2 (h.server v hv)
    | model => exact ModelSettings.legible_iff.2 (h.model v hv)

theorem tells_result (h : IsSound lines) : (meaning.result lines).Tells lines where
  server := by
    have hget : (meaning.result lines).server =
        (Vocabulary.find Key.server lines).elim {} (meaning.value Key.server) :=
      meaning.get_result Key.server h.distinct
    rw [hget, serverLines]
    cases hfind : Vocabulary.find Key.server lines with
    | none => exact ⟨rfl, rfl, rfl, ⟨rfl⟩⟩
    | some l => exact ServerSettings.tells_result (h.server l (Vocabulary.mem_of_find hfind))
  model := by
    have hget : (meaning.result lines).model =
        (Vocabulary.find Key.model lines).elim {} (meaning.value Key.model) :=
      meaning.get_result Key.model h.distinct
    rw [hget, modelLines]
    cases hfind : Vocabulary.find Key.model lines with
    | none => exact ⟨rfl, rfl, rfl, rfl, rfl⟩
    | some l => exact ModelSettings.tells_result (h.model l (Vocabulary.mem_of_find hfind))

/-- The text of some lines. -/
def written (lines : List (Line vocabulary)) : String :=
  String.ofList ((Vocabulary.block lines).chars 0)

/-- A text of white space has no entries. -/
theorem not_hasEntry_of_isBlank {b : Block} {n : Nat} (h : ∀ x ∈ b.chars n, Text.isBlank x = true) :
    b.hasEntry = false := by
  have hkey : ∀ (k : Name) (u v : List Char), ¬ ∀ x ∈ u ++ (k.text.toList ++ v), Text.isBlank x = true := by
    intro k u v hall
    obtain ⟨x, w, hw⟩ := List.exists_cons_of_ne_nil k.ne_nil
    have hx : x ∈ k.text.toList := hw ▸ List.mem_cons_self
    have hblank := hall x (List.mem_append_right u (List.mem_append_left v hx))
    rw [isBlank_of_isNameChar (k.all_isNameChar x hx)] at hblank
    cases hblank
  induction b with
  | done => rfl
  | filler f rest ih => exact ih fun x hx => h x (List.mem_append_right _ hx)
  | line key value rest _ => exact absurd h (hkey key _ _)
  | group key further inner rest _ _ => exact absurd h (hkey key _ _)

/-- Written settings are read as what they tell if they are sound, and refused if they are not. -/
theorem parse_written (lines : List (Line vocabulary)) :
    (IsSound lines → ∃ s, parse (written lines) = .ok s ∧ s.Tells lines) ∧
      (¬ IsSound lines → ∃ f, parse (written lines) = .error (.yaml f)) := by
  cases hblank : Text.isAllBlank (written lines) with
  | true =>
    -- white space is not even scanned; no key can stand in it
    have hentry : (Vocabulary.block lines).hasEntry = false := by
      rw [Text.isAllBlank, written, String.toList_ofList, List.all_eq_true] at hblank
      exact not_hasEntry_of_isBlank hblank
    obtain ⟨hlegible, hresult⟩ := meaning.of_not_hasEntry hentry
    have hsound := legible_iff.1 hlegible
    have hread : parse (written lines) = .ok meaning.record.blank := by
      rw [parse, hblank, if_pos rfl]
      rfl
    exact ⟨fun _ => ⟨_, hresult ▸ hread, tells_result hsound⟩, fun h => absurd hsound h⟩
  | false =>
    obtain ⟨hok, herror⟩ := meaning.ofText_block lines
    have hread : parse (written lines) = (record.ofText (written lines)).mapError .yaml := by
      rw [parse, hblank, if_neg Bool.false_ne_true]
      cases record.ofText (written lines) <;> rfl
    rw [hread]
    constructor
    · intro hsound
      rw [written, show record = meaning.record from rfl, hok (legible_iff.2 hsound)]
      exact ⟨_, rfl, tells_result hsound⟩
    · intro hsound
      obtain ⟨f, hf⟩ := herror fun h => hsound (legible_iff.1 h)
      rw [written, show record = meaning.record from rfl, hf]
      exact ⟨f, rfl⟩

/-- The sections and the server settings in another order than usual, and a key that is not known. -/
def shuffled : List (Line vocabulary) :=
  [.known Key.model ⟨1, [.known ModelSettings.Key.inputSize (4294967295 : Int)]⟩,
   .other ⟨"note", by decide +kernel⟩ (fun k => by cases k <;> decide) (.truth true),
   .known Key.server
     ⟨0, [.known ServerSettings.Key.logs ⟨0, [.known LogSettings.Key.level ⟨"warn", by decide⟩]⟩,
          .known ServerSettings.Key.port (65535 : Int)]⟩]

/-- Server settings that list some ports. -/
def ported (ports : List Int) : List (Line vocabulary) :=
  [.known Key.server ⟨0, ports.map (.known ServerSettings.Key.port ·)⟩]

/-- Shuffled settings are read, with the largest numbers that their members can hold. A larger number is
refused, and so is a second one. -/
theorem parse_written_shuffled :
    (∃ s, parse
        "model:\n  input_size: 4294967295\nnote: true\nserver:\n logs:\n  level: \"warn\"\n port: 65535\n" =
        .ok s ∧ s.server.host = "0.0.0.0" ∧ s.server.port = 65535 ∧ s.server.logs.level = "warn" ∧
      s.model.inputSize = 4294967295 ∧ s.model.path = none) ∧
    (∃ f, parse "server:\n port: 65536\n" = .error (.yaml f)) ∧
    ∃ f, parse "server:\n port: 1\n port: 2\n" = .error (.yaml f) := by
  refine ⟨?_, ?_, ?_⟩
  · obtain ⟨s, hread, htells⟩ := (parse_written shuffled).1 (by decide)
    have hport : (s.server.port : Int) = 65535 := htells.server.port
    have hsize : (s.model.inputSize : Int) = 4294967295 := htells.model.inputSize
    refine ⟨s, ?_, htells.server.host, by omega, htells.server.logs.level, by omega, htells.model.path⟩
    exact .trans (congrArg parse (by decide +kernel)) hread
  · obtain ⟨f, hread⟩ := (parse_written (ported [65536])).2 (by decide)
    exact ⟨f, .trans (congrArg parse (by decide +kernel)) hread⟩
  · obtain ⟨f, hread⟩ := (parse_written (ported [1, 2])).2 (by decide)
    exact ⟨f, .trans (congrArg parse (by decide +kernel)) hread⟩

end Settings

end Cutout
