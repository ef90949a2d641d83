-- Files of which a diff has headers alone, because only the mode or the name changed or because the
-- file is empty. Their paths are told by words in front of them, and they are read as they are
-- exactly if these words do not stand in them again.
import PinGate.Proofs.Diff.ReadBack

namespace PinGate.Diff.Written

open Text

/-! ## Headers alone -/

/-- A file of which a diff has headers alone. -/
inductive Bare where
  | modeChange (name oldMode newMode : Text)
  | emptyFile (name mode : Text)
  | moved (old new : Text)
  deriving Repr, DecidableEq

namespace Bare

/-- The name before the change, as the line that starts the file has it. -/
def old : Bare → Text
  | modeChange name _ _ => name
  | emptyFile name _ => name
  | moved old _ => old

/-- The name after the change. -/
def new : Bare → Text
  | modeChange name _ _ => name
  | emptyFile name _ => name
  | moved _ new => new

def headers : Bare → List Header
  | modeChange _ oldMode newMode => [.oldMode oldMode, .newMode newMode]
  | emptyFile _ mode => [.newFile mode]
  | moved _ _ => [.similarity "100%".toList, .renameFrom, .renameTo]

/-- The line that starts a file. -/
def startText (f : Bare) : Text :=
  "diff --git ".toList ++ ("a/".toList ++ f.old) ++ (" b/".toList ++ f.new)

/-- The lines of a file. -/
def lines (f : Bare) : List Text := f.startText :: f.headers.map (·.text f.old f.new)

/-- The change that is written. -/
def change : Bare → ChangedFile
  | modeChange name _ _ => ⟨name, .modified, none, []⟩
  | emptyFile name _ => ⟨name, .added, none, []⟩
  | moved old new => ⟨new, .renamed, some old, []⟩

/-- What a reader keeps of the name on the line that starts a file: all behind the last ` b/` in
it. -/
def startedName (name : Text) : Text := (afterLast? " b/".toList name).getD name

/-- What a reader keeps of the new name of a renaming: all behind the last `rename to ` in it. -/
def renamedToName (name : Text) : Text := (afterLast? "rename to ".toList name).getD name

/-- The change as a reader should find it. -/
def file : Bare → ChangedFile
  | modeChange name _ _ => ⟨startedName name, .modified, none, []⟩
  | emptyFile name _ => ⟨startedName name, .added, none, []⟩
  | moved old new => ⟨renamedToName new, .renamed, some (renamedName old), []⟩

/-- Whether the words that tell a name stand only in front of it. -/
def HasPlainNames : Bare → Prop
  | modeChange name _ _ => ¬ " b/".toList <:+: name
  | emptyFile name _ => ¬ " b/".toList <:+: name
  | moved old new => ¬ "rename from ".toList <:+: old ∧ ¬ "rename to ".toList <:+: new

instance : DecidablePred HasPlainNames := fun f =>
  match f with
  | modeChange _ _ _ => inferInstanceAs (Decidable (¬ _))
  | emptyFile _ _ => inferInstanceAs (Decidable (¬ _))
  | moved _ _ => inferInstanceAs (Decidable (_ ∧ _))

/-! ## Names -/

theorem pathOfStart_startText (f : Bare) : pathOfStart f.startText = startedName f.new := by
  have hlast := afterLast?_append_self (p := " b/".toList) (by decide) (by decide) f.new
  unfold pathOfStart startText
  rw [afterLast?_append_of_some hlast]
  rfl

theorem pathBehind_renameTo (name : Text) :
    pathBehind "rename to ".toList ("rename to ".toList ++ name) = renamedToName name := by
  unfold pathBehind
  rw [afterLast?_append_self (by decide) (by decide)]
  rfl

/-- Names are kept whole exactly if they are plain. -/
theorem file_eq_change_iff (f : Bare) : f.file = f.change ↔ f.HasPlainNames := by
  cases f with
  | modeChange name oldMode newMode =>
    simp only [file, change, ChangedFile.mk.injEq, and_true]
    exact afterLast?_getD_eq_self_iff (by decide)
  | emptyFile name mode =>
    simp only [file, change, ChangedFile.mk.injEq, and_true]
    exact afterLast?_getD_eq_self_iff (by decide)
  | moved old new =>
    simp only [file, change, ChangedFile.mk.injEq, Option.some.injEq, true_and, and_true]
    rw [and_comm]
    exact and_congr (afterLast?_getD_eq_self_iff (by decide))
      (afterLast?_getD_eq_self_iff (by decide))

/-! ## Reading -/

/-- The file behind its headers. -/
def draft (f : Bare) : Draft :=
  f.headers.foldl (fun d h => h.apply f.old f.new d) { path := pathOfStart f.startText }

theorem toFile_draft (f : Bare) : f.draft.toFile = f.file := by
  unfold draft
  rw [pathOfStart_startText]
  cases f with
  | modeChange name oldMode newMode => rfl
  | emptyFile name mode => rfl
  | moved old new =>
    rw [file, ← pathBehind_renameTo]
    rfl

/-- A file is read behind the files before it, whatever state they leave. -/
theorem foldlM_lines (s : State) (f : Bare) :
    ∃ t, f.lines.foldlM State.step s = .ok t ∧ t.allFiles = s.allFiles ++ [f.file] ∧
      t.owed = .nothing := by
  let opened := s.openFile (pathOfStart f.startText)
  have hopened : s.step f.startText = .ok opened :=
    State.step_of_start (List.isPrefixOf_iff_prefix.2 ⟨_, rfl⟩)
  refine ⟨⟨opened.files, some f.draft, .nothing⟩, ?_, ?_, rfl⟩
  · rw [lines, State.foldlM_cons_of_ok hopened]
    exact foldlM_headers _ _ _ _ _
  · simp [State.allFiles, toFile_draft, opened, State.openFile]

end Bare

/-! ## The law -/

/-- Files of which a diff has headers alone are read into one file each, with the status that their
headers tell and the names as far as they stand behind the last of the words that tell them. These
are the changes that were written exactly if in no file the words stand in the names. -/
theorem headers_alone_tell_plain_names (fs : List Bare) (returns : Nat → Bool)
    (hlines : ∀ f ∈ fs, ∀ l ∈ f.lines, IsLine l) :
    Diff.read (endLines returns (fs.flatMap Bare.lines)) = .ok (fs.map Bare.file) ∧
      (Diff.read (endLines returns (fs.flatMap Bare.lines)) = .ok (fs.map Bare.change) ↔
        ∀ f ∈ fs, f.HasPlainNames) := by
  have hread : Diff.read (endLines returns (fs.flatMap Bare.lines)) = .ok (fs.map Bare.file) :=
    read_endLines (fun f hf l hl => (hlines f hf l hl).readsAlike) Bare.foldlM_lines returns
  refine ⟨hread, ?_⟩
  rw [hread, Except.ok.injEq, List.map_inj_left]
  exact forall₂_congr fun f _ => Bare.file_eq_change_iff f

/-- A renaming in which each name holds the words that tell the other one, and a change of mode
under a name of two words. -/
theorem crossed_names_are_told :
    let moved : Bare := .moved "rename to b/x".toList "a b/rename from y".toList
    let mode : Bare := .modeChange "read me".toList "100644".toList "100755".toList
    (∀ f ∈ [moved, mode], ∀ l ∈ f.lines, IsLine l) ∧
      Diff.read (endLines (· = 2) ([moved, mode].flatMap Bare.lines)) =
        .ok [moved.change, mode.change] := by
  intro moved mode
  have hlines : ∀ f ∈ [moved, mode], ∀ l ∈ f.lines, IsLine l := by decide
  have hnames : ∀ f ∈ [moved, mode], f.HasPlainNames := by decide
  exact ⟨hlines, (headers_alone_tell_plain_names [moved, mode] (· = 2) hlines).2.2 hnames⟩

/-- Words in a name that tell it cut it: those in front of the path on the line that starts a file,
for a mode and for an empty file, and those of either side of a renaming. -/
theorem names_are_cut_at_their_words :
    Diff.read "diff --git a/x b/y b/x b/y\nold mode 100644\nnew mode 100755\n".toList =
      .ok [⟨['y'], .modified, none, []⟩] ∧
    Diff.read "diff --git a/x b/y b/x b/y\nnew file mode 100644\n".toList =
      .ok [⟨['y'], .added, none, []⟩] ∧
    Diff.read ("diff --git a/rename from o b/rename to n\nsimilarity index 100%\n" ++
        "rename from rename from o\nrename to rename to n\n").toList =
      .ok [⟨['n'], .renamed, some ['o'], []⟩] := by
  refine ⟨?_, ?_, ?_⟩ <;> rfl

end PinGate.Diff.Written
