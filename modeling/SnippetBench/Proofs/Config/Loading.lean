import SnippetBench.Config.File
import SnippetBench.Proofs.Except

/-!
# How loading a configuration ends

Loading a configuration gives options (`Loads`), fails as a configuration file may (`Fails`), or is
kept from its end by something that is not caught (`Escapes`). What the source tells of the path,
the bytes it gives, the value of their text and the options in that value decide which of them it
is, and each result of `load` is one of the three for one reason (`load_eq_ok_iff`,
`load_eq_error_iff`). Nothing is assumed of the source: it may answer and fail as it likes.
-/

namespace SnippetBench.Config

open Files (Failure Path Tree)

variable {source : Source} {tree : Tree} {p : Path} {t : Text} {c : Configuration} {e : LoadError}

/-- A source tells that a file stands where a path leads. -/
structure HasFile (source : Source) (tree : Tree) (p : Path) : Prop where
  contains : source.contains tree p = .ok true
  containsFile : source.containsFile tree p = .ok true

/-- A source gives bytes for a path. -/
structure HasBytes (source : Source) (tree : Tree) (p : Path) (bytes : List UInt8) : Prop
    extends HasFile source tree p where
  bytesAt : source.bytesAt tree p = .ok bytes

/-- A source gives bytes with a text for a path. -/
def HasText (source : Source) (tree : Tree) (p : Path) (t : Text) : Prop :=
  ∃ bytes, HasBytes source tree p bytes ∧ Files.textOfBytes bytes = .ok t

/-- A source gives bytes for a path whose text has a value. -/
def HasValue (source : Source) (tree : Tree) (p : Path) (d : Data) : Prop :=
  ∃ t, HasText source tree p t ∧ source.value t = .ok d

/-- A source gives options in order for a path. -/
def Loads (source : Source) (tree : Tree) (p : Path) (c : Configuration) : Prop :=
  ∃ entries, HasValue source tree p (.map entries) ∧ readConfiguration (.map entries) = .ok c

/-- The errors that a configuration file may have, and when it has them. -/
inductive Fails (source : Source) (tree : Tree) (p : Path) : LoadError → Prop
  | notFound (hcontains : source.contains tree p = .ok false) : Fails source tree p .notFound
  | notFile (hcontains : source.contains tree p = .ok true)
      (hfile : source.containsFile tree p = .ok false) : Fails source tree p .notFile
  | refused {f : Failure} (hfile : HasFile source tree p)
      (hbytes : source.bytesAt tree p = .error f) (hf : f.number?.isSome) :
      Fails source tree p (.refused f)
  | malformed {t : Text} (htext : HasText source tree p t)
      (hvalue : source.value t = .error .malformed) : Fails source tree p .malformed
  | notMap {d : Data} (hvalue : HasValue source tree p d) (hd : ∀ entries, d ≠ .map entries) :
      Fails source tree p (.notMap d.kind)
  | faults {entries : List (Data × Data)} {fs : List Fault}
      (hvalue : HasValue source tree p (.map entries))
      (hfs : readConfiguration (.map entries) = .error fs)
      (hwritable : ∀ f ∈ fs, f.problem ≠ .unwritable) : Fails source tree p (.faults fs)

/-- The errors that are not caught: the system does not tell whether something, or a file, stands at
the path, the path does not reach it, the bytes are no text, a part of the text cannot be read as
what it has to be, and a fault cannot be shown. -/
inductive Escapes (source : Source) (tree : Tree) (p : Path) : LoadError → Prop
  | contains {f : Failure} (hcontains : source.contains tree p = .error f) :
      Escapes source tree p (.system f)
  | containsFile {f : Failure} (hcontains : source.contains tree p = .ok true)
      (hfile : source.containsFile tree p = .error f) : Escapes source tree p (.system f)
  | unreached {f : Failure} (hfile : HasFile source tree p)
      (hbytes : source.bytesAt tree p = .error f) (hf : f.number? = none) :
      Escapes source tree p (.system f)
  | encoding {bytes : List UInt8} {m : Text.Utf8.Mistake} (hbytes : HasBytes source tree p bytes)
      (hm : Text.Utf8.decode bytes = .error m) : Escapes source tree p (.encoding m)
  | unreadable {t : Text} {what : Yaml.Unreadable} (htext : HasText source tree p t)
      (hvalue : source.value t = .error (.unreadable what)) :
      Escapes source tree p (.unreadable what)
  | unwritable {entries : List (Data × Data)} {fs : List Fault} {f : Fault}
      (hvalue : HasValue source tree p (.map entries))
      (hfs : readConfiguration (.map entries) = .error fs)
      (hmem : f ∈ fs) (hf : f.problem = .unwritable) : Escapes source tree p .unwritable

theorem Fails.isExpected (h : Fails source tree p e) : e.isExpected = true := by cases h <;> rfl

theorem Escapes.not_isExpected (h : Escapes source tree p e) : e.isExpected = false := by
  cases h <;> rfl

/-! ### From the file to its value -/

/-- Where a file stands, its bytes are read. -/
theorem textAt_of_hasFile (h : HasFile source tree p) :
    source.textAt tree p =
      (source.bytesAt tree p).mapError .ofReading >>= fun bytes =>
        (Files.textOfBytes bytes).mapError .encoding := by
  rw [Source.textAt, h.contains, h.containsFile]
  rfl

/-- Bytes that are given are decoded. -/
theorem textAt_of_hasBytes {bytes : List UInt8} (h : HasBytes source tree p bytes) :
    source.textAt tree p = (Files.textOfBytes bytes).mapError .encoding := by
  rw [textAt_of_hasFile h.toHasFile, h.bytesAt]
  rfl

theorem textAt_of_hasText (h : HasText source tree p t) : source.textAt tree p = .ok t := by
  obtain ⟨bytes, hbytes, ht⟩ := h
  rw [textAt_of_hasBytes hbytes, ht, mapError_ok]

theorem valueAt_of_hasText (h : HasText source tree p t) :
    source.valueAt tree p = (source.value t).mapError .ofFault := by
  rw [Source.valueAt, textAt_of_hasText h]
  rfl

theorem valueAt_of_hasValue {d : Data} (h : HasValue source tree p d) :
    source.valueAt tree p = .ok d := by
  obtain ⟨t, htext, hvalue⟩ := h
  rw [valueAt_of_hasText htext, hvalue, mapError_ok]

/-- A value that cannot be had is the error of loading. -/
theorem load_of_valueAt (h : source.valueAt tree p = .error e) : load source tree p = .error e := by
  rw [load, h]
  rfl

/-- A text that cannot be had is the error of loading. -/
theorem load_of_textAt (h : source.textAt tree p = .error e) : load source tree p = .error e := by
  refine load_of_valueAt ?_
  rw [Source.valueAt, h]
  rfl

/-- A text without a value gives the error of loading. -/
theorem load_of_value {fault : Yaml.Fault} (htext : HasText source tree p t)
    (h : source.value t = .error fault) : load source tree p = .error (.ofFault fault) := by
  refine load_of_valueAt ?_
  rw [valueAt_of_hasText htext, h, mapError_error]

/-- The options in a map, or the error with their faults. -/
theorem load_of_hasValue {entries : List (Data × Data)}
    (h : HasValue source tree p (.map entries)) :
    load source tree p = (readConfiguration (.map entries)).mapError LoadError.ofFaults := by
  rw [load, valueAt_of_hasValue h]
  rfl

theorem ofReading_of_isSome {f : Failure} (h : f.number?.isSome) :
    LoadError.ofReading f = .refused f := if_pos h

theorem ofReading_of_eq_none {f : Failure} (h : f.number? = none) :
    LoadError.ofReading f = .system f := by
  rw [LoadError.ofReading, h]
  rfl

theorem ofFaults_of_writable {fs : List Fault} (h : ∀ f ∈ fs, f.problem ≠ .unwritable) :
    LoadError.ofFaults fs = .faults fs := by
  rw [LoadError.ofFaults, if_neg (by simpa using h)]

theorem ofFaults_of_mem {fs : List Fault} {f : Fault} (hmem : f ∈ fs)
    (hf : f.problem = .unwritable) : LoadError.ofFaults fs = .unwritable := by
  rw [LoadError.ofFaults, if_pos (by simpa using ⟨f, hmem, hf⟩)]

/-! ### Each end of loading -/

theorem Loads.load_eq (h : Loads source tree p c) : load source tree p = .ok c := by
  obtain ⟨entries, hvalue, hc⟩ := h
  rw [load_of_hasValue hvalue, hc, mapError_ok]

theorem Fails.load_eq (h : Fails source tree p e) : load source tree p = .error e := by
  cases h with
  | notFound hcontains =>
    refine load_of_textAt ?_
    rw [Source.textAt, hcontains]
    rfl
  | notFile hcontains hfile =>
    refine load_of_textAt ?_
    rw [Source.textAt, hcontains, hfile]
    rfl
  | refused hfile hbytes hf =>
    refine load_of_textAt ?_
    rw [textAt_of_hasFile hfile, hbytes, mapError_error, ofReading_of_isSome hf]
    rfl
  | malformed htext hvalue => exact load_of_value htext hvalue
  | @notMap d hvalue hd =>
    rw [load, valueAt_of_hasValue hvalue]
    cases d with
    | map entries => exact absurd rfl (hd entries)
    | _ => rfl
  | faults hvalue hfs hwritable =>
    rw [load_of_hasValue hvalue, hfs, mapError_error, ofFaults_of_writable hwritable]

theorem Escapes.load_eq (h : Escapes source tree p e) : load source tree p = .error e := by
  cases h with
  | contains hcontains =>
    refine load_of_textAt ?_
    rw [Source.textAt, hcontains]
    rfl
  | containsFile hcontains hfile =>
    refine load_of_textAt ?_
    rw [Source.textAt, hcontains, hfile]
    rfl
  | unreached hfile hbytes hf =>
    refine load_of_textAt ?_
    rw [textAt_of_hasFile hfile, hbytes, mapError_error, ofReading_of_eq_none hf]
    rfl
  | encoding hbytes hm =>
    refine load_of_textAt ?_
    rw [textAt_of_hasBytes hbytes, Files.textOfBytes, hm]
    rfl
  | unreadable htext hvalue => exact load_of_value htext hvalue
  | unwritable hvalue hfs hmem hf =>
    rw [load_of_hasValue hvalue, hfs, mapError_error, ofFaults_of_mem hmem hf]

/-! ### No other end -/

/-- A path for which there is a value loads, fails or escapes. -/
theorem ends_of_hasValue {d : Data} (h : HasValue source tree p d) :
    (∃ c, Loads source tree p c) ∨ ∃ e, Fails source tree p e ∨ Escapes source tree p e := by
  by_cases hmap : ∃ entries, d = .map entries
  case neg => exact .inr ⟨_, .inl (.notMap h fun entries heq => hmap ⟨entries, heq⟩)⟩
  obtain ⟨entries, rfl⟩ := hmap
  cases hread : readConfiguration (.map entries) with
  | ok c => exact .inl ⟨c, entries, h, hread⟩
  | error fs =>
    by_cases hf : ∃ f ∈ fs, f.problem = .unwritable
    · obtain ⟨f, hmem, hf⟩ := hf
      exact .inr ⟨_, .inr (.unwritable h hread hmem hf)⟩
    · exact .inr ⟨_, .inl (.faults h hread fun f hmem heq => hf ⟨f, hmem, heq⟩)⟩

/-- A path for which there are bytes loads, fails or escapes. -/
theorem ends_of_hasBytes {bytes : List UInt8} (h : HasBytes source tree p bytes) :
    (∃ c, Loads source tree p c) ∨ ∃ e, Fails source tree p e ∨ Escapes source tree p e := by
  cases hdecode : Text.Utf8.decode bytes with
  | error m => exact .inr ⟨_, .inr (.encoding h hdecode)⟩
  | ok t =>
    have htext : HasText source tree p (Text.normalizeNewlines t) :=
      ⟨bytes, h, by rw [Files.textOfBytes, hdecode]; rfl⟩
    cases hvalue : source.value (Text.normalizeNewlines t) with
    | ok d => exact ends_of_hasValue ⟨_, htext, hvalue⟩
    | error fault =>
      cases fault with
      | malformed => exact .inr ⟨_, .inl (.malformed htext hvalue)⟩
      | unreadable what => exact .inr ⟨_, .inr (.unreadable htext hvalue)⟩

/-- A path at which a file stands loads, fails or escapes. -/
theorem ends_of_hasFile (h : HasFile source tree p) :
    (∃ c, Loads source tree p c) ∨ ∃ e, Fails source tree p e ∨ Escapes source tree p e := by
  cases hbytes : source.bytesAt tree p with
  | ok bytes => exact ends_of_hasBytes ⟨h, hbytes⟩
  | error f =>
    cases hf : f.number? with
    | some n => exact .inr ⟨_, .inl (.refused h hbytes (by rw [hf]; rfl))⟩
    | none => exact .inr ⟨_, .inr (.unreached h hbytes hf)⟩

/-- Loading ends in one of the three ways. -/
theorem ends (source : Source) (tree : Tree) (p : Path) :
    (∃ c, Loads source tree p c) ∨ ∃ e, Fails source tree p e ∨ Escapes source tree p e := by
  cases hcontains : source.contains tree p with
  | error f => exact .inr ⟨_, .inr (.contains hcontains)⟩
  | ok there =>
    cases there with
    | false => exact .inr ⟨_, .inl (.notFound hcontains)⟩
    | true =>
      cases hfile : source.containsFile tree p with
      | error f => exact .inr ⟨_, .inr (.containsFile hcontains hfile)⟩
      | ok isFile =>
        cases isFile with
        | false => exact .inr ⟨_, .inl (.notFile hcontains hfile)⟩
        | true => exact ends_of_hasFile ⟨hcontains, hfile⟩

/-- Loading gives options exactly if they are in order in the file. -/
theorem load_eq_ok_iff : load source tree p = .ok c ↔ Loads source tree p c := by
  refine ⟨fun h => ?_, Loads.load_eq⟩
  obtain ⟨c', hloads⟩ | ⟨e, hfails | hescapes⟩ := ends source tree p
  · cases hloads.load_eq.symm.trans h
    exact hloads
  · cases hfails.load_eq.symm.trans h
  · cases hescapes.load_eq.symm.trans h

/-- Loading is in error exactly if the file has that error, or the error is not caught. -/
theorem load_eq_error_iff :
    load source tree p = .error e ↔ Fails source tree p e ∨ Escapes source tree p e := by
  refine ⟨fun h => ?_, fun h => h.elim Fails.load_eq Escapes.load_eq⟩
  obtain ⟨c, hloads⟩ | ⟨e', hends⟩ := ends source tree p
  · cases hloads.load_eq.symm.trans h
  · cases (hends.elim Fails.load_eq Escapes.load_eq).symm.trans h
    exact hends

end SnippetBench.Config
