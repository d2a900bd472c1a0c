import SnippetBench.Config.Options
import SnippetBench.Proofs.Except
import Mathlib.Data.List.Basic

/-!
# Overrides are values of a file

Options with overrides laid on top are written out as data, changed and read again, while the values
of a file are read once. Both give the same (`applyOverrides_of_readBench`), for two reasons: what
is read for a field is read again from the data that it is written as (`Stable`), and reading looks
at data only through its fields and its unknown keys, which setting an entry changes in the same way
everywhere (`SameReading.setEntry`).
-/

namespace SnippetBench.Config

open Number (Binary64)

/-! ### Entries that are set -/

theorem lookup?_setEntry (entries : List (Data × Data)) (key : Text) (value : Data) (name : Text) :
    Data.lookup? name (setEntry entries key value) =
      if key = name then some value else Data.lookup? name entries := by
  fun_induction setEntry entries key value with
  | case1 => simp [Data.lookup?]
  | case2 v rest =>
    by_cases h : key = name <;> simp [Data.lookup?, h]
  | case3 k v rest hk ih =>
    by_cases h : k = name
    · have hkey : key ≠ name := fun e => hk (h.trans e.symm)
      simp [Data.lookup?, h, hkey]
    · simp [Data.lookup?, h, ih]
  | case4 entry rest hentry ih =>
    obtain ⟨k, v⟩ := entry
    cases k with
    | text k => exact absurd rfl (hentry k v)
    | _ => exact ih

theorem hasBrokenKey_setEntry (entries : List (Data × Data)) (key : Text) (value : Data) :
    hasBrokenKey (setEntry entries key value) = hasBrokenKey entries := by
  unfold hasBrokenKey
  fun_induction setEntry entries key value with
  | case1 => simp
  | case2 v rest => simp
  | case3 k v rest hk ih => rw [List.any_cons, List.any_cons, ih]
  | case4 entry rest hentry ih => rw [List.any_cons, List.any_cons, ih]

/-- The fault of an unknown key. -/
def unknownFault (key : Text) : Fault := ⟨[.key key], .unknownKey⟩

/-- The fault of the key of an entry, if it has one. -/
def keyFault? (known : List Text) : Data × Data → Option Fault
  | (.text t, _) => if known.contains t then none else some (unknownFault t)
  | (k, _) => some ⟨[stepOfKey k], .keyNotText⟩

theorem unknownKeys_eq (known : List Text) (entries : List (Data × Data)) :
    unknownKeys known entries = entries.filterMap (keyFault? known) := by
  refine List.filterMap_congr fun entry _ => ?_
  obtain ⟨k, v⟩ := entry
  cases k <;> rfl

theorem unknownKeys_cons (known : List Text) (entry : Data × Data) (entries : List (Data × Data)) :
    unknownKeys known (entry :: entries) =
      (keyFault? known entry).toList ++ unknownKeys known entries := by
  rw [unknownKeys_eq, unknownKeys_eq, List.filterMap_cons]
  cases keyFault? known entry <;> rfl

theorem keyFault?_text (known : List Text) (key : Text) (value : Data) :
    keyFault? known (.text key, value) = if key ∈ known then none else some (unknownFault key) := by
  simp [keyFault?]

theorem ne_unknownFault_of_keyFault? {known : List Text} {entry : Data × Data} {key : Text}
    (h : ∀ v, entry ≠ (.text key, v)) : unknownFault key ∉ (keyFault? known entry).toList := by
  obtain ⟨k, v⟩ := entry
  cases k with
  | text k =>
    have hk : key ≠ k := fun e => h v (by rw [e])
    rw [keyFault?_text]
    split <;> simp [unknownFault, hk]
  | _ => simp [keyFault?, unknownFault]

/-- The faults of unknown keys when a key is added at the end: it is noted unless it is known or
noted already. -/
def noteUnknown (known : List Text) (key : Text) (faults : List Fault) : List Fault :=
  if key ∈ known ∨ unknownFault key ∈ faults then faults else faults ++ [unknownFault key]

theorem append_noteUnknown {known : List Text} {key : Text} {front faults : List Fault}
    (h : unknownFault key ∉ front) :
    front ++ noteUnknown known key faults = noteUnknown known key (front ++ faults) := by
  unfold noteUnknown
  simp only [List.mem_append, h, false_or]
  split <;> simp

theorem unknownKeys_setEntry (known : List Text) (entries : List (Data × Data)) (key : Text)
    (value : Data) : unknownKeys known (setEntry entries key value) =
      noteUnknown known key (unknownKeys known entries) := by
  have hkey : ∀ v rest, unknownKeys known ((.text key, v) :: rest) =
      if key ∈ known then unknownKeys known rest else unknownFault key :: unknownKeys known rest := by
    intro v rest
    rw [unknownKeys_cons, keyFault?_text]
    split <;> rfl
  fun_induction setEntry entries key value with
  | case1 =>
    rw [hkey, noteUnknown]
    by_cases h : key ∈ known <;> simp [h, unknownKeys]
  | case2 v rest =>
    rw [hkey, hkey, noteUnknown]
    by_cases h : key ∈ known <;> simp [h]
  | case3 k v rest hk ih =>
    have hentry : ∀ w, (Data.text k, v) ≠ (.text key, w) :=
      fun w e => hk (by simpa using congrArg Prod.fst e)
    rw [unknownKeys_cons, ih, append_noteUnknown (ne_unknownFault_of_keyFault? hentry),
      unknownKeys_cons]
  | case4 entry rest hentry ih =>
    rw [unknownKeys_cons, ih, append_noteUnknown (ne_unknownFault_of_keyFault? fun v => hentry key v),
      unknownKeys_cons]

theorem readField_setEntry {α : Type} (entries : List (Data × Data)) (key : Text) (value : Data)
    (name : Text) (default : Option α) (read : Data → Checked α) :
    readField (setEntry entries key value) name default read =
      if key = name then (read value).under (.key name) else readField entries name default read := by
  unfold readField
  rw [lookup?_setEntry]
  by_cases h : key = name
  · rw [if_pos h, if_pos h]
  · rw [if_neg h, if_neg h]

/-! ### Reading that looks the same -/

/-- Entries from which the same is read: every field, and the keys that are no fields. -/
structure SameReading (entries other : List (Data × Data)) : Prop where
  broken : hasBrokenKey entries = hasBrokenKey other
  samples : readField entries "samples" (some 1000) readCount =
    readField other "samples" (some 1000) readCount
  iterations : readField entries "iterations" (some 1) readCount =
    readField other "iterations" (some 1) readCount
  runtimes : readField entries "runtimes" (some ({} : BenchOptions).runtimes) readNames =
    readField other "runtimes" (some ({} : BenchOptions).runtimes) readNames
  keep : readField entries "keep" (some false) readBoolean =
    readField other "keep" (some false) readBoolean
  markdown : readField entries "markdown" (some false) readBoolean =
    readField other "markdown" (some false) readBoolean
  timeout : readField entries "timeout_seconds" (some none) (readOptional readPositive) =
    readField other "timeout_seconds" (some none) (readOptional readPositive)
  unknown : unknownKeys benchFields entries = unknownKeys benchFields other

variable {entries other : List (Data × Data)} {bench : BenchOptions}

theorem SameReading.readBench_eq (h : SameReading entries other) :
    readBench (.map entries) = readBench (.map other) := by
  unfold readBench
  dsimp only
  rw [h.broken, h.samples, h.iterations, h.runtimes, h.keep, h.markdown, h.timeout, h.unknown]

/-- Setting an entry changes what is read in the same way everywhere. -/
theorem SameReading.setEntry (h : SameReading entries other) (key : Text) (value : Data) :
    SameReading (setEntry entries key value) (setEntry other key value) where
  broken := by rw [hasBrokenKey_setEntry, hasBrokenKey_setEntry, h.broken]
  samples := by rw [readField_setEntry, readField_setEntry, h.samples]
  iterations := by rw [readField_setEntry, readField_setEntry, h.iterations]
  runtimes := by rw [readField_setEntry, readField_setEntry, h.runtimes]
  keep := by rw [readField_setEntry, readField_setEntry, h.keep]
  markdown := by rw [readField_setEntry, readField_setEntry, h.markdown]
  timeout := by rw [readField_setEntry, readField_setEntry, h.timeout]
  unknown := by rw [unknownKeys_setEntry, unknownKeys_setEntry, h.unknown]

/-! ### Values that are read again -/

/-- What a reader gives for any data, it gives again for the data that this is written as. -/
def Stable {α : Type} (read : Data → Checked α) (write : α → Data) : Prop :=
  ∀ d a, read d = .ok a → read (write a) = .ok a

theorem one_le_of_readCount {d : Data} {n : Int} (h : readCount d = .ok n) : 1 ≤ n := by
  unfold readCount at h
  split at h
  · split at h
    · next hpos =>
      cases h
      exact hpos
    · cases h
  · cases h

theorem stable_readCount : Stable readCount .int := fun _ _ h => if_pos (one_le_of_readCount h)

theorem readTextsFrom_map_text (position : Nat) (names : List Text) :
    readTextsFrom position (names.map .text) = .ok names := by
  induction names generalizing position with
  | nil => rfl
  | cons name names ih =>
    rw [List.map_cons, readTextsFrom, ih]
    rfl

theorem readNames_list {names : List Text} (h : names ≠ []) :
    readNames (.list (names.map .text)) = .ok names := by
  rw [readNames, readTextsFrom_map_text]
  cases names with
  | nil => exact absurd rfl h
  | cons name names => rfl

theorem ne_nil_of_readNames {d : Data} {names : List Text} (h : readNames d = .ok names) :
    names ≠ [] := by
  rintro rfl
  unfold readNames at h
  split at h
  · split at h
    · cases h
    · next hne => exact hne h
  · split at h
    · cases h
    · next hne => exact hne h
  · cases h

theorem stable_readNames : Stable readNames fun names => .list (names.map .text) :=
  fun _ _ h => readNames_list (ne_nil_of_readNames h)

theorem stable_readBoolean : Stable readBoolean .bool := fun _ _ _ => rfl

theorem pos_of_readPositive {d : Data} {x : Binary64} (h : readPositive d = .ok x) :
    ((0 : Nat) : Binary64) < x := by
  unfold readPositive at h
  split at h
  · split at h
    · next hpos =>
      cases h
      exact hpos
    · cases h
  · cases h

theorem stable_readPositive : Stable readPositive .float :=
  fun _ _ h => if_pos (pos_of_readPositive h)

theorem readOptional_of_ne {α : Type} (read : Data → Checked α) {d : Data} (h : d ≠ .null) :
    readOptional read d = (read d).map some := by
  cases d with
  | null => exact absurd rfl h
  | _ => rfl

theorem stable_readOptional {α : Type} {read : Data → Checked α} {write : α → Data}
    (h : Stable read write) (hwrite : ∀ a, write a ≠ .null) :
    Stable (readOptional read) fun a => (a.map write).getD .null := by
  intro d a hread
  cases a with
  | none => rfl
  | some a =>
    have hd : d ≠ .null := by
      rintro rfl
      cases hread
    rw [readOptional_of_ne read hd] at hread
    obtain ⟨b, hb, heq⟩ := map_eq_ok_iff.mp hread
    show readOptional read (write a) = .ok (some a)
    rw [readOptional_of_ne read (hwrite a), ← Option.some.inj heq, h d b hb]
    rfl

/-- What is read for a field is its default, or was read from data. -/
theorem eq_default_or_exists_read {α : Type} {read : Data → Checked α} {name : Text}
    {default a : α} (h : readField entries name (some default) read = .ok a) :
    a = default ∨ ∃ d, read d = .ok a := by
  unfold readField at h
  split at h
  · next d _ => exact .inr ⟨d, mapError_eq_ok_iff.mp h⟩
  · next heq =>
    cases heq
    cases h
    exact .inl rfl
  · next heq => cases heq

/-- A field that was read gives the same when it is read from what it is written as. -/
theorem readField_written {α : Type} {read : Data → Checked α} {write : α → Data} {name : Text}
    {default a : α} (h : Stable read write) (hdefault : read (write default) = .ok default)
    (hread : readField entries name (some default) read = .ok a)
    (hlookup : Data.lookup? name other = some (write a)) :
    readField other name (some default) read = .ok a := by
  have hfixed : read (write a) = .ok a := by
    rcases eq_default_or_exists_read hread with rfl | ⟨d, hd⟩
    · exact hdefault
    · exact h d a hd
  unfold readField
  rw [hlookup]
  show Checked.under (.key name) (read (write a)) = .ok a
  rw [hfixed]
  rfl

/-! ### Options as data -/

/-- Options are read when every field is and no key is unknown. -/
theorem readBench_eq_ok (h : readBench (.map entries) = .ok bench) :
    hasBrokenKey entries = false ∧
      readField entries "samples" (some 1000) readCount = .ok bench.samples ∧
      readField entries "iterations" (some 1) readCount = .ok bench.iterations ∧
      readField entries "runtimes" (some ({} : BenchOptions).runtimes) readNames = .ok bench.runtimes ∧
      readField entries "keep" (some false) readBoolean = .ok bench.keep ∧
      readField entries "markdown" (some false) readBoolean = .ok bench.markdown ∧
      readField entries "timeout_seconds" (some none) (readOptional readPositive) =
        .ok bench.timeout ∧
      unknownKeys benchFields entries = [] := by
  rw [readBench] at h
  by_cases hbroken : hasBrokenKey entries = true
  · rw [if_pos hbroken] at h
    cases h
  · rw [if_neg hbroken] at h
    refine ⟨by simpa using hbroken, ?_⟩
    dsimp only at h ⊢
    generalize readField entries "samples" (some 1000) readCount = samples at h ⊢
    generalize readField entries "iterations" (some 1) readCount = iterations at h ⊢
    generalize readField entries "runtimes" _ readNames = runtimes at h ⊢
    generalize readField entries "keep" (some false) readBoolean = keep at h ⊢
    generalize readField entries "markdown" (some false) readBoolean = markdown at h ⊢
    generalize readField entries "timeout_seconds" _ _ = timeout at h ⊢
    generalize unknownKeys benchFields entries = unknown at h ⊢
    split at h
    · cases h
      exact ⟨rfl, rfl, rfl, rfl, rfl, rfl, rfl⟩
    · cases h

theorem sameReading_toEntries (h : readBench (.map entries) = .ok bench) :
    SameReading entries bench.toEntries := by
  obtain ⟨hbroken, hsamples, hiterations, hruntimes, hkeep, hmarkdown, htimeout, hunknown⟩ :=
    readBench_eq_ok h
  constructor
  · rw [hbroken]
    rfl
  · rw [hsamples]
    exact (readField_written stable_readCount rfl hsamples rfl).symm
  · rw [hiterations]
    exact (readField_written stable_readCount rfl hiterations rfl).symm
  · rw [hruntimes]
    exact (readField_written stable_readNames rfl hruntimes rfl).symm
  · rw [hkeep]
    exact (readField_written stable_readBoolean rfl hkeep rfl).symm
  · rw [hmarkdown]
    exact (readField_written stable_readBoolean rfl hmarkdown rfl).symm
  · rw [htimeout]
    exact (readField_written (stable_readOptional stable_readPositive (by simp)) rfl htimeout rfl).symm
  · rw [hunknown]
    rfl

/-! ### Overrides laid on top -/

/-- Entries with the values of overrides set, one after another. -/
def laidOn (entries : List (Data × Data)) (overrides : List (Text × Data)) : List (Data × Data) :=
  overrides.foldl (fun es (name, value) => setEntry es name value) entries

theorem SameReading.laidOn (h : SameReading entries other) (overrides : List (Text × Data)) :
    SameReading (laidOn entries overrides) (laidOn other overrides) := by
  induction overrides generalizing entries other with
  | nil => exact h
  | cons o overrides ih => exact ih (h.setEntry o.1 o.2)

/-- A field that no override names is read as before. -/
theorem readField_laidOn {α : Type} {overrides : List (Text × Data)} {name : Text}
    (h : ∀ o ∈ overrides, o.1 ≠ name) (default : Option α) (read : Data → Checked α) :
    readField (laidOn entries overrides) name default read = readField entries name default read := by
  induction overrides generalizing entries with
  | nil => rfl
  | cons o overrides ih =>
    show readField (Config.laidOn (setEntry entries o.1 o.2) overrides) name default read = _
    rw [ih fun o' ho' => h o' (.tail _ ho'), readField_setEntry, if_neg (h o (.head _))]

/-- A field that one override names is read from its value, unless that is null. -/
theorem readField_laidOn_given {α : Type} {before after : List (Text × Data)} {name : Text}
    (hbefore : ∀ o ∈ before, o.1 ≠ name) (hafter : ∀ o ∈ after, o.1 ≠ name) (value : Data)
    (default : Option α) (read : Data → Checked α) :
    readField (laidOn entries (givenOverrides (before ++ (name, value) :: after))) name default read =
      if value != .null then (read value).under (.key name)
      else readField entries name default read := by
  have hgiven {overrides : List (Text × Data)} (h : ∀ o ∈ overrides, o.1 ≠ name) :
      ∀ o ∈ givenOverrides overrides, o.1 ≠ name := fun o ho => h o (List.mem_filter.1 ho).1
  have hsplit : givenOverrides (before ++ (name, value) :: after) =
      givenOverrides before ++ givenOverrides [(name, value)] ++ givenOverrides after := by
    unfold givenOverrides
    rw [← List.filter_append, ← List.filter_append, List.append_assoc, List.singleton_append]
  rw [hsplit]
  unfold laidOn
  rw [List.foldl_append, List.foldl_append]
  refine (readField_laidOn (hgiven hafter) default read).trans ?_
  by_cases hgivenValue : (value != .null) = true
  · have hone : givenOverrides [(name, value)] = [(name, value)] := by
      simp [givenOverrides, hgivenValue]
    rw [if_pos hgivenValue, hone, List.foldl_cons, List.foldl_nil, readField_setEntry, if_pos rfl]
  · have hnone : givenOverrides [(name, value)] = [] := by simp [givenOverrides, hgivenValue]
    rw [if_neg hgivenValue, hnone]
    exact readField_laidOn (hgiven hbefore) default read

/-- No override has the name of the options themselves. -/
def AreNamable (overrides : List (Text × Data)) : Prop := ∀ o ∈ overrides, o.1 ≠ ownName

instance (overrides : List (Text × Data)) : Decidable (AreNamable overrides) :=
  inferInstanceAs (Decidable (∀ o ∈ overrides, o.1 ≠ ownName))

theorem applyOverrides_eq {overrides : List (Text × Data)} (h : AreNamable overrides)
    (bench : BenchOptions) : applyOverrides bench overrides =
      (readBench (.map (laidOn bench.toEntries (givenOverrides overrides)))).mapError .faults := by
  have hany : ¬ (overrides.any fun (name, _) => name = ownName) = true := by
    intro hany
    obtain ⟨o, ho, heq⟩ := List.any_eq_true.mp hany
    exact h o ho (by simpa using heq)
  rw [applyOverrides, if_neg hany]
  rfl

/-- Overrides of options that were read are like values of the file they were read from. -/
theorem applyOverrides_eq_laidOn {overrides : List (Text × Data)} (h : AreNamable overrides)
    (hread : readBench (.map entries) = .ok bench) : applyOverrides bench overrides =
      (readBench (.map (laidOn entries (givenOverrides overrides)))).mapError .faults := by
  rw [applyOverrides_eq h, ((sameReading_toEntries hread).laidOn _).readBench_eq]

/-! ### Overrides after overrides -/

/-- The override with another value if it has the name. -/
def exchanged (name : Text) (value : Data) (o : Text × Data) : Text × Data :=
  if o.1 = name then (name, value) else o

/-- Overrides with a value set under a name: wherever the name is, else at the end. -/
def setOverride (overrides : List (Text × Data)) (name : Text) (value : Data) : List (Text × Data) :=
  if overrides.any (·.1 = name) then overrides.map (exchanged name value)
  else overrides ++ [(name, value)]

/-- Overrides updated by those given in others. -/
def updated (first second : List (Text × Data)) : List (Text × Data) :=
  (givenOverrides second).foldl (fun os (name, value) => setOverride os name value) first

theorem setEntry_setEntry_self (entries : List (Data × Data)) (key : Text) (v w : Data) :
    setEntry (setEntry entries key v) key w = setEntry entries key w := by
  fun_induction setEntry entries key v with
  | case1 => simp [setEntry]
  | case2 u rest => simp [setEntry]
  | case3 k u rest hk ih => simp [setEntry, hk, ih]
  | case4 entry rest hentry ih =>
    obtain ⟨k, u⟩ := entry
    cases k with
    | text k => exact absurd rfl (hentry k u)
    | _ => simp [setEntry, ih]

/-- An entry that is there is set before another one or behind it. -/
theorem setEntry_comm {key name : Text} (hne : name ≠ key) (v w : Data)
    (h : (Data.lookup? key entries).isSome) :
    setEntry (setEntry entries name w) key v = setEntry (setEntry entries key v) name w := by
  induction entries with
  | nil => cases h
  | cons entry entries ih =>
    obtain ⟨k, u⟩ := entry
    cases k with
    | text k =>
      by_cases hkey : k = key
      · subst hkey
        simp [setEntry, Ne.symm hne]
      · have ih := ih (by simpa [Data.lookup?, hkey] using h)
        by_cases hname : k = name
        · subst hname
          simp [setEntry, hkey]
        · simp [setEntry, hkey, hname, ih]
    | _ => simpa [setEntry] using ih h

/-- A value that is set after overrides may be set before them and in them. -/
theorem setEntry_laidOn {key : Text} (v : Data) (overrides : List (Text × Data))
    (h : (Data.lookup? key entries).isSome) :
    setEntry (laidOn entries overrides) key v =
      laidOn (setEntry entries key v) (overrides.map (exchanged key v)) := by
  induction overrides generalizing entries with
  | nil => rfl
  | cons o overrides ih =>
    obtain ⟨name, w⟩ := o
    have hset : (Data.lookup? key (setEntry entries name w)).isSome := by
      rw [lookup?_setEntry]
      split
      · rfl
      · exact h
    show setEntry (laidOn (setEntry entries name w) overrides) key v = _
    rw [ih hset, List.map_cons]
    unfold exchanged
    by_cases hname : name = key
    · subst hname
      rw [setEntry_setEntry_self, if_pos rfl]
      show _ = laidOn (setEntry (setEntry entries name v) name v) _
      rw [setEntry_setEntry_self]
    · rw [if_neg hname, setEntry_comm hname v w h]
      rfl

theorem laidOn_exchanged {overrides : List (Text × Data)} {name : Text}
    (h : ∃ o ∈ overrides, o.1 = name) (entries : List (Data × Data)) (value : Data) :
    laidOn entries (overrides.map (exchanged name value)) =
      setEntry (laidOn entries overrides) name value := by
  induction overrides generalizing entries with
  | nil =>
    obtain ⟨o, ho, -⟩ := h
    cases ho
  | cons o overrides ih =>
    obtain ⟨n, w⟩ := o
    by_cases hn : n = name
    · subst hn
      have hset : (Data.lookup? n (setEntry entries n w)).isSome := by
        rw [lookup?_setEntry, if_pos rfl]
        rfl
      show laidOn entries (exchanged n value (n, w) :: overrides.map (exchanged n value)) =
        setEntry (laidOn (setEntry entries n w) overrides) n value
      rw [setEntry_laidOn value overrides hset, setEntry_setEntry_self, exchanged, if_pos rfl]
      rfl
    · have htail : ∃ o ∈ overrides, o.1 = name := by simpa [hn] using h
      rw [List.map_cons, exchanged, if_neg hn]
      exact ih htail (setEntry entries n w)

/-- Setting a value in overrides sets it in the entries on which they are laid. -/
theorem laidOn_setOverride (entries : List (Data × Data)) (overrides : List (Text × Data))
    (name : Text) (value : Data) : laidOn entries (setOverride overrides name value) =
      setEntry (laidOn entries overrides) name value := by
  unfold setOverride
  split
  · next h => exact laidOn_exchanged (by simpa using h) entries value
  · exact List.foldl_append ..

theorem laidOn_updated (entries : List (Data × Data)) (first second : List (Text × Data)) :
    laidOn entries (updated first second) =
      laidOn (laidOn entries first) (givenOverrides second) := by
  unfold updated
  generalize givenOverrides second = given
  induction given generalizing first with
  | nil => rfl
  | cons o given ih =>
    show laidOn entries (given.foldl _ (setOverride first o.1 o.2)) = _
    rw [ih, laidOn_setOverride]
    rfl

theorem mem_setOverride {o : Text × Data} {overrides : List (Text × Data)} {name : Text}
    {value : Data} (h : o ∈ setOverride overrides name value) :
    o ∈ overrides ∨ o = (name, value) := by
  unfold setOverride at h
  split at h
  · obtain ⟨o', ho', rfl⟩ := List.mem_map.mp h
    unfold exchanged
    split
    · exact Or.inr rfl
    · exact Or.inl ho'
  · simpa using h

theorem mem_updated {o : Text × Data} {first second : List (Text × Data)}
    (h : o ∈ updated first second) : o ∈ first ∨ o ∈ givenOverrides second := by
  unfold updated at h
  generalize givenOverrides second = given at h ⊢
  induction given generalizing first with
  | nil => exact Or.inl h
  | cons o' given ih =>
    rcases ih h with h | h
    · rcases mem_setOverride h with h | rfl
      · exact Or.inl h
      · exact Or.inr List.mem_cons_self
    · exact Or.inr (List.mem_cons_of_mem _ h)

/-- What is given stays given, and what is updated by it is. -/
theorem givenOverrides_updated (first second : List (Text × Data)) :
    givenOverrides (updated (givenOverrides first) second) = updated (givenOverrides first) second := by
  refine List.filter_eq_self.mpr fun o ho => ?_
  rcases mem_updated ho with h | h
  · exact (List.mem_filter.mp h).2
  · exact (List.mem_filter.mp h).2

theorem areNamable_updated {first second : List (Text × Data)} (hfirst : AreNamable first)
    (hsecond : AreNamable second) : AreNamable (updated (givenOverrides first) second) := by
  intro o ho
  rcases mem_updated ho with h | h
  · exact hfirst o (List.mem_filter.mp h).1
  · exact hsecond o (List.mem_filter.mp h).1

/-! ### The laws of overrides -/

/-- Overrides, none of which has the name of the options themselves, are like values of the file:
they are accepted or refused like these and with the same result. So no overrides change nothing,
and overrides after others that were accepted are like both at once, the later ones updating the
earlier ones. -/
theorem applyOverrides_of_readBench {entries : List (Data × Data)} {bench : BenchOptions}
    (h : readBench (.map entries) = .ok bench) :
    (∀ overrides, AreNamable overrides → applyOverrides bench overrides =
      (readBench (.map (laidOn entries (givenOverrides overrides)))).mapError .faults) ∧
    (∀ overrides, AreNamable overrides → givenOverrides overrides = [] →
      applyOverrides bench overrides = .ok bench) ∧
    ∀ first second bench', AreNamable first → AreNamable second →
      applyOverrides bench first = .ok bench' →
        applyOverrides bench' second =
          applyOverrides bench (updated (givenOverrides first) second) := by
  refine ⟨fun overrides hname => applyOverrides_eq_laidOn hname h, fun overrides hname hnone => ?_,
    fun first second bench' hfirst hsecond hbench' => ?_⟩
  · rw [applyOverrides_eq_laidOn hname h, hnone]
    show (readBench (.map entries)).mapError OverrideError.faults = .ok bench
    rw [h]
    rfl
  · have hread : readBench (.map (laidOn entries (givenOverrides first))) = .ok bench' := by
      rw [applyOverrides_eq_laidOn hfirst h] at hbench'
      exact mapError_eq_ok_iff.mp hbench'
    rw [applyOverrides_eq_laidOn hsecond hread,
      applyOverrides_eq_laidOn (areNamable_updated hfirst hsecond) h, givenOverrides_updated,
      laidOn_updated]

theorem applyOverrides_of_readBench_spelled :
    readBench (.map [(.text "samples", .text " +0_5.0 "), (.text "keep", .float (1 : Nat))]) =
        .ok { samples := 5, keep := true } ∧
      applyOverrides { samples := 5, keep := true } [("loops", .int 3), ("samples", .bool false)] =
        (readBench (.map (laidOn
          [(.text "samples", .text " +0_5.0 "), (.text "keep", .float (1 : Nat))]
          (givenOverrides [("loops", .int 3), ("samples", .bool false)])))).mapError .faults ∧
      applyOverrides { samples := 5, keep := true } [("samples", .null), ("loops", .null)] =
        .ok { samples := 5, keep := true } ∧
      applyOverrides { samples := 7, keep := true } [("loops", .int 3), ("samples", .null)] =
        applyOverrides { samples := 5, keep := true } (updated
          (givenOverrides [("samples", .text "7")]) [("loops", .int 3), ("samples", .null)]) := by
  have h : readBench (.map [(.text "samples", .text " +0_5.0 "), (.text "keep", .float (1 : Nat))]) =
      .ok { samples := 5, keep := true } := by decide +kernel
  obtain ⟨hlaid, hnone, hafter⟩ := applyOverrides_of_readBench h
  exact ⟨h, hlaid _ (by decide +kernel), hnone _ (by decide +kernel) (by decide +kernel),
    hafter [("samples", .text "7")] _ _ (by decide +kernel) (by decide +kernel) (by decide +kernel)⟩

/-- An override with the name of the options themselves cannot be given, while a file with that key
is read and has an unknown key. And a name that was held without a value takes its place in the
order of the faults when both overrides are given at once. -/
theorem applyOverrides_ownName_ne :
    readBench (.map []) = .ok {} ∧
      applyOverrides {} [("bench", .int 1)] ≠
        (readBench (.map (laidOn [] (givenOverrides [("bench", .int 1)])))).mapError .faults ∧
      applyOverrides {} [("loops", .null), ("runs", .null)] = .ok {} ∧
      applyOverrides {} [("runs", .int 1), ("loops", .int 2)] ≠
        applyOverrides {} (updated [("loops", .null), ("runs", .null)]
          [("runs", .int 1), ("loops", .int 2)]) := by
  refine ⟨?_, ?_, ?_, ?_⟩ <;> decide +kernel

end SnippetBench.Config
