import SnippetBench.Proofs.Interpreter.Probe
import Mathlib.Data.List.Induction

/-!
# Versions that are remembered

Calls for versions come one after another, and the host may be another one at each of them. To see
which runtimes are asked in the course of a call, the answers are noted (`Call.make`). After any
calls, the versions that are remembered are those that the first successful calls gave, and no more
runtimes have told a version than are remembered (`Recalls.make`, `recalls_replies`). So a call
for a runtime with a remembered version asks nothing, and any other call asks the host as it is then
(`versions_remembered`).
-/

namespace SnippetBench.Interpreter

/-- A call for the version of a runtime, and the host as it is at that time. -/
structure Call where
  host : Host
  name : Text

/-- The answers that runtimes gave, in order, with their names. -/
abbrev Answered := List (Text × Except ProbeError Text)

/-- What a call comes to: its result, and the answers that were asked for in its course. -/
structure Reply where
  name : Text
  result : Except ProbeError Text
  answers : Answered
  deriving DecidableEq

/-- Asks a runtime for its version and notes the answer. -/
def probeNoted (host : Host) (name : Text) : StateM Answered (Except ProbeError Text) := do
  modify (· ++ [(name, probe host name)])
  return probe host name

/-- Makes a call with the versions that are remembered. -/
def Call.make (c : Call) : StateM Versions Reply := fun versions =>
  let ((result, versions'), answers) :=
    ((versionBy (probeNoted c.host) c.name).run.run versions).run []
  (⟨c.name, result, answers⟩, versions')

/-- What calls come to that are made one after another, when nothing is remembered at first. -/
def replies (calls : List Call) : List Reply := ((calls.mapM Call.make).run []).1

/-- The version that the first successful call for a runtime gave. -/
def firstFound? (name : Text) (replies : List Reply) : Option Text :=
  replies.findSome? fun r => if r.name = name then r.result.toOption else none

/-- How often a runtime that was asked told its version. -/
def timesFound (name : Text) (replies : List Reply) : Nat :=
  (replies.flatMap (·.answers)).countP fun a => a.1 = name && a.2.toOption.isSome

variable {c : Call} {calls : List Call} {name : Text} {past : List Reply} {versions : Versions}

/-! ### One call -/

/-- What a call comes to. -/
theorem run_make (c : Call) (versions : Versions) :
    c.make.run versions =
      match versions.lookup c.name with
      | some v => (⟨c.name, .ok v, []⟩, versions)
      | none =>
        (⟨c.name, probe c.host c.name, [(c.name, probe c.host c.name)]⟩,
          match probe c.host c.name with
          | .ok v => (c.name, v) :: versions
          | .error _ => versions) := by
  show Call.make c versions = _
  unfold Call.make
  rw [run_versionBy]
  cases versions.lookup c.name with
  | some v => rfl
  | none =>
    have hasked : (probeNoted c.host c.name).run [] =
        (probe c.host c.name, [(c.name, probe c.host c.name)]) := rfl
    dsimp only
    rw [StateT.run_bind, hasked]
    cases probe c.host c.name <;> rfl

/-- A call without the notes is a call for the version. -/
theorem run_version_eq_run_make (c : Call) (versions : Versions) :
    (version c.host c.name).run.run versions =
      ((c.make.run versions).1.result, (c.make.run versions).2) := by
  rw [run_version, run_make]
  cases versions.lookup c.name with
  | some v => rfl
  | none => cases probe c.host c.name <;> rfl

/-! ### Calls one after another -/

theorem run_mapM_concat {σ α β : Type} (f : α → StateM σ β) (as : List α) (a : α) (s : σ) :
    ((as ++ [a]).mapM f).run s =
      (((as.mapM f).run s).1 ++ [((f a).run ((as.mapM f).run s).2).1],
        ((f a).run ((as.mapM f).run s).2).2) := by
  rw [List.mapM_append, List.mapM_cons, List.mapM_nil]
  rfl

/-- The results of calls are those of the calls for the versions. -/
theorem run_mapM_version (calls : List Call) (versions : Versions) :
    (calls.mapM fun c => (version c.host c.name).run).run versions =
      (((calls.mapM Call.make).run versions).1.map (·.result),
        ((calls.mapM Call.make).run versions).2) := by
  induction calls using List.reverseRecOn with
  | nil => rfl
  | append_singleton calls c ih =>
    rw [run_mapM_concat, run_mapM_concat, ih, List.map_append]
    have hcall := run_version_eq_run_make c ((calls.mapM Call.make).run versions).2
    rw [hcall]
    rfl

theorem firstFound?_concat (name : Text) (past : List Reply) (r : Reply) :
    firstFound? name (past ++ [r]) =
      (firstFound? name past).or (if r.name = name then r.result.toOption else none) := by
  simp [firstFound?, List.findSome?_append]

theorem timesFound_concat (name : Text) (past : List Reply) (r : Reply) :
    timesFound name (past ++ [r]) = timesFound name past +
      r.answers.countP fun a => a.1 = name && a.2.toOption.isSome := by
  simp [timesFound, List.flatMap_append, List.countP_append]

/-- What is remembered after calls is what the first successful ones gave, and no runtime has told
its version more than once for it. -/
structure Recalls (past : List Reply) (versions : Versions) : Prop where
  lookup : ∀ name, versions.lookup name = firstFound? name past
  once : ∀ name, timesFound name past = if (firstFound? name past).isSome then 1 else 0

theorem recalls_nil : Recalls [] [] := ⟨fun _ => rfl, fun _ => rfl⟩

/-- A call for a runtime whose version is remembered. -/
theorem Recalls.make_remembered (h : Recalls past versions) {v : Text}
    (hfound : firstFound? c.name past = some v) :
    c.make.run versions = (⟨c.name, .ok v, []⟩, versions) := by
  rw [run_make, h.lookup, hfound]

/-- A call for a runtime whose version is not remembered. -/
theorem Recalls.make_asked (h : Recalls past versions) (hfound : firstFound? c.name past = none) :
    c.make.run versions =
      (⟨c.name, probe c.host c.name, [(c.name, probe c.host c.name)]⟩,
        match probe c.host c.name with
        | .ok v => (c.name, v) :: versions
        | .error _ => versions) := by
  rw [run_make, h.lookup, hfound]

/-- A call in which no runtime tells its version, and which gives one only if one was found. -/
theorem Recalls.concat (h : Recalls past versions) {r : Reply}
    (hresult : r.result.toOption.isSome → (firstFound? r.name past).isSome)
    (hanswers : ∀ a ∈ r.answers, a.2.toOption = none) : Recalls (past ++ [r]) versions := by
  have hfirst (name : Text) : firstFound? name (past ++ [r]) = firstFound? name past := by
    rw [firstFound?_concat]
    cases hfound : firstFound? name past with
    | some v => rfl
    | none =>
      by_cases hname : r.name = name
      · rw [hname, hfound] at hresult
        simpa [hname] using hresult
      · simp [hname]
  refine ⟨fun name => by rw [hfirst, h.lookup], fun name => ?_⟩
  rw [timesFound_concat, hfirst, h.once, List.countP_eq_zero.2, Nat.add_zero]
  intro a ha
  simp [hanswers a ha]

/-- One more call. -/
theorem Recalls.make (h : Recalls past versions) (c : Call) :
    Recalls (past ++ [(c.make.run versions).1]) (c.make.run versions).2 := by
  cases hfound : firstFound? c.name past with
  | some v =>
    rw [h.make_remembered hfound]
    exact h.concat (fun _ => by rw [hfound]; rfl) nofun
  | none =>
    rw [h.make_asked hfound]
    cases hprobe : probe c.host c.name with
    | error e => exact h.concat nofun (by simp [Except.toOption])
    | ok v =>
      refine ⟨fun name => ?_, fun name => ?_⟩
      · rw [firstFound?_concat, List.lookup_cons]
        by_cases hname : c.name = name
        · simp [← hname, hfound, Except.toOption]
        · simp [beq_false_of_ne (Ne.symm hname), hname, h.lookup]
      · rw [timesFound_concat, firstFound?_concat, h.once]
        by_cases hname : c.name = name
        · simp [← hname, hfound, Except.toOption]
        · simp [hname]

/-- Any number of calls. -/
theorem recalls_replies (calls : List Call) :
    Recalls (replies calls) ((calls.mapM Call.make).run []).2 := by
  induction calls using List.reverseRecOn with
  | nil => exact recalls_nil
  | append_singleton calls c ih =>
    unfold replies at ih ⊢
    rw [run_mapM_concat]
    exact ih.make c

/-- What a call comes to after others: a version that was found is given again and nothing is asked;
otherwise the host is asked as it is now. -/
def Call.replyAfter (c : Call) (past : List Reply) : Reply :=
  match firstFound? c.name past with
  | some v => ⟨c.name, .ok v, []⟩
  | none => ⟨c.name, probe c.host c.name, [(c.name, probe c.host c.name)]⟩

theorem name_replyAfter (c : Call) (past : List Reply) : (c.replyAfter past).name = c.name := by
  unfold Call.replyAfter
  split <;> rfl

theorem replies_concat (calls : List Call) (c : Call) :
    replies (calls ++ [c]) = replies calls ++ [c.replyAfter (replies calls)] := by
  have hreply : replies (calls ++ [c]) =
      replies calls ++ [(c.make.run ((calls.mapM Call.make).run []).2).1] := by
    unfold replies
    rw [run_mapM_concat]
  rw [hreply]
  unfold Call.replyAfter
  cases hfound : firstFound? c.name (replies calls) with
  | some v => rw [(recalls_replies calls).make_remembered hfound]
  | none => rw [(recalls_replies calls).make_asked hfound]

/-! ### Calls for several runtimes -/

theorem firstFound?_filter (name : Text) (past : List Reply) :
    firstFound? name (past.filter (·.name = name)) = firstFound? name past := by
  induction past with
  | nil => rfl
  | cons r past ih =>
    unfold firstFound? at ih ⊢
    by_cases hname : r.name = name
    · rw [List.filter_cons_of_pos (by simpa using hname), List.findSome?_cons, List.findSome?_cons,
        ih]
    · rw [List.filter_cons_of_neg (by simpa using hname), List.findSome?_cons, if_neg hname, ih]

/-- What the calls for a runtime come to does not depend on the calls for others between them. -/
theorem filter_replies (name : Text) (calls : List Call) :
    (replies calls).filter (·.name = name) = replies (calls.filter (·.name = name)) := by
  induction calls using List.reverseRecOn with
  | nil => rfl
  | append_singleton calls c ih =>
    rw [replies_concat, List.filter_append, List.filter_append, ih]
    by_cases hname : c.name = name
    · have hkept : (c.replyAfter (replies calls)).name = name := (name_replyAfter _ _).trans hname
      rw [List.filter_cons_of_pos (by simpa using hkept),
        List.filter_cons_of_pos (by simpa using hname), List.filter_nil, List.filter_nil,
        replies_concat]
      -- a call depends on the past only through what was found for its own runtime
      unfold Call.replyAfter
      rw [← ih, hname, firstFound?_filter]
    · have hdropped : (c.replyAfter (replies calls)).name ≠ name := by rwa [name_replyAfter]
      rw [List.filter_cons_of_neg (by simpa using hdropped),
        List.filter_cons_of_neg (by simpa using hname), List.filter_nil, List.filter_nil,
        List.append_nil, List.append_nil]

/-- **Versions are remembered.** Noting the answers does not change the results of calls. A call for a
runtime for which an earlier one succeeded gives the version that the first such call gave, and asks
nothing; a call for any other runtime, whatever failed before, asks the host as it is then, and gives
what it answers. So no runtime tells its version more than once, and what the calls for one runtime
come to is the same without the calls for others. -/
theorem versions_remembered (calls : List Call) :
    ((calls.mapM fun c => (version c.host c.name).run).run []).1 = (replies calls).map (·.result) ∧
      (∀ c v, firstFound? c.name (replies calls) = some v →
        replies (calls ++ [c]) = replies calls ++ [⟨c.name, .ok v, []⟩]) ∧
      (∀ c, firstFound? c.name (replies calls) = none →
        replies (calls ++ [c]) = replies calls ++
          [⟨c.name, probe c.host c.name, [(c.name, probe c.host c.name)]⟩]) ∧
      (∀ name, timesFound name (replies calls) ≤ 1) ∧
      ∀ name, (replies calls).filter (·.name = name) = replies (calls.filter (·.name = name)) := by
  refine ⟨congrArg Prod.fst (run_mapM_version calls []), fun c v hfound => ?_, fun c hfound => ?_,
    fun name => ?_, fun name => filter_replies name calls⟩
  · rw [replies_concat, Call.replyAfter, hfound]
  · rw [replies_concat, Call.replyAfter, hfound]
  · rw [(recalls_replies calls).once]
    split <;> decide

/-- A host on which every runtime prints the same when it is asked for its version. -/
def telling (output : List UInt8) : Host := fun _ =>
  .ok { answer := ⟨output, [], some 0⟩, execute := fun _ => ⟨[], some 0⟩ }

/-- A runtime that is not there at first is found later, and then remembered although it tells
another version, and is gone at last. -/
theorem versions_remembered_recovered :
    let calls : List Call := [⟨.empty, "py"⟩, ⟨telling [0x31], "py"⟩, ⟨telling [0x32], "pypy"⟩]
    firstFound? "py" (replies (calls.take 1)) = none ∧
      replies (calls.take 1 ++ [⟨telling [0x31], "py"⟩]) =
        replies (calls.take 1) ++ [⟨"py", .ok "1", [("py", .ok "1")]⟩] ∧
      firstFound? "py" (replies calls) = some "1" ∧
      replies (calls ++ [⟨telling [0x32], "py"⟩]) = replies calls ++ [⟨"py", .ok "1", []⟩] ∧
      timesFound "py" (replies calls) ≤ 1 := by
  intro calls
  have hnone : firstFound? "py" (replies (calls.take 1)) = none := by decide +kernel
  have hfound : firstFound? "py" (replies calls) = some "1" := by decide +kernel
  have hprobe : probe (telling [0x31]) "py" = .ok "1" := by decide +kernel
  have hasked := (versions_remembered (calls.take 1)).2.2.1 ⟨telling [0x31], "py"⟩ hnone
  rw [hprobe] at hasked
  exact ⟨hnone, hasked, hfound,
    (versions_remembered calls).2.1 ⟨telling [0x32], "py"⟩ "1" hfound,
    (versions_remembered calls).2.2.2.1 "py"⟩

end SnippetBench.Interpreter
