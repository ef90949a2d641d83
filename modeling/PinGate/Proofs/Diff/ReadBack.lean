-- Reading undoes writing. Whatever the bodies of hunks say and however lines end, a written diff is
-- read into one file for each that was written, with the same hunks and the same lines.
import PinGate.Proofs.Diff.HunksReadBack
import PinGate.Proofs.Text.Parts

namespace PinGate.Diff.Written

open Text

/-! ## The headers of a file -/

/-- What a header says of the file being read. -/
def Header.apply (old new : Text) (h : Header) (d : Draft) : Draft :=
  match h with
  | newFile _ => { d with status := .added }
  | deletedFile _ => { d with status := .deleted, path := devNull }
  | renameFrom => { d with status := .renamed, oldPath := some (renamedName old) }
  | renameTo => { d with path := pathBehind "rename to ".toList ("rename to ".toList ++ new) }
  | _ => d

theorem pathBehind_renameFrom (name : Text) :
    pathBehind "rename from ".toList ("rename from ".toList ++ name) = renamedName name := by
  unfold pathBehind
  rw [afterLast?_append_self (by decide) (by decide)]
  rfl

theorem step_headerText (files : Array ChangedFile) (d : Draft) (old new : Text) (h : Header) :
    State.step ⟨files, some d, .nothing⟩ (h.text old new) =
      .ok ⟨files, some (h.apply old new d), .nothing⟩ := by
  cases h with
  | renameFrom =>
    rw [Header.apply, ← pathBehind_renameFrom]
    rfl
  | _ => rfl

theorem foldlM_headers (files : Array ChangedFile) (d : Draft) (old new : Text)
    (hs : List Header) :
    (hs.map (·.text old new)).foldlM State.step ⟨files, some d, .nothing⟩ =
      .ok ⟨files, some (hs.foldl (fun d h => h.apply old new d) d), .nothing⟩ := by
  induction hs generalizing d with
  | nil => rfl
  | cons h hs ih =>
    rw [List.map_cons, State.foldlM_cons_of_ok (step_headerText files d old new h)]
    exact ih (h.apply old new d)

/-- A draft that knows the status of its file, and its old path if it is renamed. -/
def Told (f : File) (d : Draft) : Prop := d.status = f.status ∧ d.oldPath = f.oldPath

/-- A draft that knows nothing of that. -/
def Untold (d : Draft) : Prop := d.status = .modified ∧ d.oldPath = none

/-- A header that tells the status tells the old path with it. -/
theorem told_apply {f : File} {h : Header} (hs : h.status? = some f.status) {d : Draft}
    (hd : Untold d ∨ Told f d) : Told f (h.apply f.old f.new d) := by
  have hold : f.status ≠ .renamed → d.oldPath = none := by
    intro hne
    rcases hd with hd | hd
    · exact hd.2
    · rw [hd.2, File.oldPath, if_neg hne]
  have hnamed : ∀ st, st = f.status → st ≠ .renamed → d.oldPath = f.oldPath := by
    rintro st rfl hne
    rw [hold hne, File.oldPath, if_neg hne]
  cases h with
  | newFile mode =>
    have hst : Status.added = f.status := Option.some.inj hs
    exact ⟨hst, hnamed _ hst (by decide)⟩
  | deletedFile mode =>
    have hst : Status.deleted = f.status := Option.some.inj hs
    exact ⟨hst, hnamed _ hst (by decide)⟩
  | renameFrom =>
    have hst : Status.renamed = f.status := Option.some.inj hs
    refine ⟨hst, ?_⟩
    rw [File.oldPath, if_pos hst.symm]
    rfl
  | _ => cases hs

/-- Any other header leaves both as they are. -/
theorem apply_of_silent {h : Header} (hs : h.status? = none) (old new : Text) (d : Draft) :
    (h.apply old new d).status = d.status ∧ (h.apply old new d).oldPath = d.oldPath := by
  cases h with
  | newFile mode => cases hs
  | deletedFile mode => cases hs
  | renameFrom => cases hs
  | _ => exact ⟨rfl, rfl⟩

theorem told_foldl_of_told {f : File} {hs : List Header}
    (honly : ∀ h ∈ hs, h.status? = none ∨ h.status? = some f.status) {d : Draft} (hd : Told f d) :
    Told f (hs.foldl (fun d h => h.apply f.old f.new d) d) := by
  induction hs generalizing d with
  | nil => exact hd
  | cons h hs ih =>
    refine ih (fun k hk => honly k (List.mem_cons_of_mem _ hk)) ?_
    rcases honly h List.mem_cons_self with hnone | hsome
    · obtain ⟨h1, h2⟩ := apply_of_silent hnone f.old f.new d
      exact ⟨h1.trans hd.1, h2.trans hd.2⟩
    · exact told_apply hsome (.inr hd)

/-- A status that some header tells is known behind all of them. -/
theorem told_foldl_of_untold {f : File} {hs : List Header}
    (honly : ∀ h ∈ hs, h.status? = none ∨ h.status? = some f.status)
    (htold : ∃ h ∈ hs, h.status? = some f.status) {d : Draft} (hd : Untold d) :
    Told f (hs.foldl (fun d h => h.apply f.old f.new d) d) := by
  -- The first header that tells the status settles it, and none behind it tells another one.
  induction hs generalizing d with
  | nil => simp at htold
  | cons h hs ih =>
    have honly' := fun k hk => honly k (List.mem_cons_of_mem h hk)
    rcases honly h List.mem_cons_self with hnone | hsome
    · obtain ⟨h1, h2⟩ := apply_of_silent hnone f.old f.new d
      have htold' : ∃ k ∈ hs, k.status? = some f.status := by simpa [hnone] using htold
      exact ih honly' htold' ⟨h1.trans hd.1, h2.trans hd.2⟩
    · exact told_foldl_of_told honly' (told_apply hsome (.inl hd))

/-- Behind its headers a file's status is known, and with it the old path. -/
theorem told_foldl (f : File) {d : Draft} (hd : Untold d) :
    Told f (f.headers.foldl (fun d h => h.apply f.old f.new d) d) := by
  rcases f.told with hmod | htold
  · refine told_foldl_of_told f.told_only ⟨hd.1.trans hmod.symm, ?_⟩
    rw [hd.2, File.oldPath, if_neg (by simp [hmod])]
  · exact told_foldl_of_untold f.told_only htold hd

theorem hunks_foldl_apply (old new : Text) (hs : List Header) (d : Draft) :
    let d' := hs.foldl (fun d h => h.apply old new d) d
    d'.hunks = d.hunks ∧ d'.last = d.last := by
  induction hs generalizing d with
  | nil => exact ⟨rfl, rfl⟩
  | cons h hs ih =>
    obtain ⟨h1, h2⟩ := ih (h.apply old new d)
    have happly : (h.apply old new d).hunks = d.hunks ∧ (h.apply old new d).last = d.last := by
      cases h <;> exact ⟨rfl, rfl⟩
    exact ⟨h1.trans happly.1, h2.trans happly.2⟩

/-! ## The names of a file -/

theorem step_oldText (files : Array ChangedFile) (d : Draft) (f : File) :
    State.step ⟨files, some d, .nothing⟩ f.oldText = .ok ⟨files, some d, .nothing⟩ := by
  rfl

theorem pathOfTarget_newText (f : File) : pathOfTarget f.newText = f.path := by
  unfold File.newText File.path
  cases f.target with
  | null => rfl
  | name tab =>
    have htab : ("b/".toList ++ f.new ++ if tab then ['\t'] else []).takeWhile (· != '\t') =
        "b/".toList ++ f.new.takeWhile (· != '\t') := by
      cases tab with
      | false => simp
      | true => simp [takeWhile_append_single]
    have hfirst : ∀ c, "b/".toList.head? = some c → isBlank c = false := by
      intro c hc
      obtain rfl : 'b' = c := Option.some.inj hc
      rfl
    have hlast : ∀ c, "b/".toList.getLast? = some c → isBlank c = false := by
      intro c hc
      obtain rfl : '/' = c := Option.some.inj hc
      rfl
    have hne : "b/".toList ≠ [] := by decide
    have htrim := trim_append hne hfirst hlast (f.new.takeWhile (· != '\t'))
    change (
      let t := trim (("b/".toList ++ f.new ++ if tab then ['\t'] else []).takeWhile (· != '\t'))
      if t == devNull then devNull
      else if startsWith "a/".toList t || startsWith "b/".toList t then t.drop 2 else t) = _
    rw [htab, htrim]
    rfl

theorem step_newText (files : Array ChangedFile) (d : Draft) (f : File) :
    State.step ⟨files, some d, .nothing⟩ f.newText =
      .ok ⟨files, some { d with path := f.path }, .nothing⟩ := by
  rw [← pathOfTarget_newText]
  rfl

/-! ## Files -/

/-- A file is read into one of its own, behind the files before it, whatever state they leave. -/
theorem foldlM_file (s : State) (f : File) :
    ∃ t, f.lines.foldlM State.step s = .ok t ∧ t.allFiles = s.allFiles ++ [f.file] ∧
      t.owed = .nothing := by
  let opened := s.openFile (pathOfStart f.startText)
  have hopened : s.step f.startText = .ok opened :=
    State.step_of_start (List.isPrefixOf_iff_prefix.2 ⟨_, rfl⟩)
  obtain ⟨d, hheaders, htold, hempty⟩ : ∃ d,
      (f.headers.map (·.text f.old f.new)).foldlM State.step opened =
        .ok ⟨opened.files, some d, .nothing⟩ ∧ Told f d ∧ d.hunks = #[] ∧ d.last = none :=
    ⟨_, foldlM_headers _ _ _ _ _, told_foldl f ⟨rfl, rfl⟩, hunks_foldl_apply _ _ _ _⟩
  obtain ⟨t, hhunks, hfile⟩ := foldlM_hunks opened.files { d with path := f.path } f.hunks
  refine ⟨⟨opened.files, some t, .nothing⟩, ?_, ?_, rfl⟩
  · rw [File.lines, List.append_assoc, List.cons_append, State.foldlM_cons_of_ok hopened,
      State.foldlM_append_of_ok hheaders, List.cons_append,
      State.foldlM_cons_of_ok (step_oldText _ _ _), List.cons_append,
      State.foldlM_cons_of_ok (step_newText _ _ _)]
    exact hhunks
  · have hfiles : opened.files.toList = s.allFiles := by
      simp [opened, State.openFile, State.allFiles]
    have hread : t.toFile = f.file := by
      rw [hfile, File.file, ← htold.1, ← htold.2]
      simp [Draft.toFile, Draft.lastHunk, hempty]
    simp [State.allFiles, hfiles, hread]

/-- Parts of a diff of which each is read into one file are read into their files, in order. -/
theorem foldlM_parts {β : Type} {lines : β → List Text} {file : β → ChangedFile}
    (hpart : ∀ s f, ∃ t, (lines f).foldlM State.step s = .ok t ∧
      t.allFiles = s.allFiles ++ [file f] ∧ t.owed = .nothing)
    (s : State) (hs : s.owed = .nothing) (fs : List β) :
    ∃ t, (fs.flatMap lines).foldlM State.step s = .ok t ∧
      t.allFiles = s.allFiles ++ fs.map file ∧ t.owed = .nothing := by
  induction fs generalizing s with
  | nil => exact ⟨s, rfl, by simp, hs⟩
  | cons f fs ih =>
    obtain ⟨t, hrun, hfile, howed⟩ := hpart s f
    obtain ⟨u, hruns, hfiles, howed'⟩ := ih t howed
    refine ⟨u, ?_, ?_, howed'⟩
    · rw [List.flatMap_cons, State.foldlM_append_of_ok hrun]
      exact hruns
    · rw [hfiles, hfile]
      simp

/-! ## The ends of lines -/

/-- A line that says the same whether or not a carriage return at its end is taken away. -/
def ReadsAlike (l : Text) : Prop :=
  '\n' ∉ l ∧ ∀ s : State, s.step (dropSuffix ['\r'] l) = s.step l

theorem IsLine.readsAlike {l : Text} (h : IsLine l) : ReadsAlike l :=
  ⟨h.1, fun s => by rw [dropSuffix_of_getLast?_ne h.2]⟩

theorem IsLine.append {a b : Text} (ha : IsLine a) (hb : IsLine b) : IsLine (a ++ b) := by
  refine ⟨by simp [ha.1, hb.1], ?_⟩
  rw [List.getLast?_append]
  cases h : b.getLast? with
  | none => simpa using ha.2
  | some c => simpa [h] using hb.2

/-- However lines end, the text of some lines is read like the lines, with an empty one behind. -/
theorem foldlM_linesOf_endLines {ls : List Text} (h : ∀ l ∈ ls, ReadsAlike l)
    (returns : Nat → Bool) (s : State) :
    (linesOf (endLines returns ls)).foldlM State.step s = (ls ++ [[]]).foldlM State.step s := by
  induction ls generalizing returns s with
  | nil => rfl
  | cons l ls ih =>
    obtain ⟨hline, hstep⟩ := h l List.mem_cons_self
    have hrest := ih (fun k hk => h k (List.mem_cons_of_mem l hk)) (fun i => returns (i + 1))
    obtain ⟨hfeed, hreturn⟩ := linesOf_line hline (endLines (fun i => returns (i + 1)) ls)
    -- The line is found with or without a carriage return, and both lead to the same state.
    have hhead : ∀ k, s.step k = s.step l →
        (k :: linesOf (endLines (fun i => returns (i + 1)) ls)).foldlM State.step s =
          (l :: ls ++ [[]]).foldlM State.step s := by
      intro k hk
      rw [List.cons_append, List.foldlM_cons, List.foldlM_cons, hk]
      exact congrArg _ (funext hrest)
    rw [endLines]
    cases returns 0 with
    | true => simpa [hreturn] using hhead l rfl
    | false => simpa [hfeed] using hhead _ (hstep s)

/-- Whatever the ends of its lines, a diff is read into the files of its parts. -/
theorem read_endLines {β : Type} {lines : β → List Text} {file : β → ChangedFile} {fs : List β}
    (halike : ∀ f ∈ fs, ∀ l ∈ lines f, ReadsAlike l)
    (hpart : ∀ s f, ∃ t, (lines f).foldlM State.step s = .ok t ∧
      t.allFiles = s.allFiles ++ [file f] ∧ t.owed = .nothing) (returns : Nat → Bool) :
    Diff.read (endLines returns (fs.flatMap lines)) = .ok (fs.map file) := by
  have hlines : ∀ l ∈ fs.flatMap lines, ReadsAlike l := by
    intro l hl
    obtain ⟨f, hf, hl⟩ := List.mem_flatMap.1 hl
    exact halike f hf l hl
  obtain ⟨t, hrun, hfiles, howed⟩ := foldlM_parts hpart .start rfl fs
  have hend : State.step t [] = .ok t := by
    obtain ⟨files, draft, owed⟩ := t
    obtain rfl : owed = .nothing := howed
    cases draft <;> rfl
  unfold Diff.read
  rw [foldlM_linesOf_endLines hlines, State.foldlM_append_of_ok hrun,
    State.foldlM_cons_of_ok hend]
  exact congrArg Except.ok hfiles

theorem rangeText_isLine (r : Range) : IsLine r.text := by
  have hdigits : ∀ n, IsLine (ofNat n) := by
    intro n
    have hchar : ∀ c, isDecimalDigit c = false → c ∉ ofNat n := by
      intro c hc hn
      rw [isDecimalDigit_of_mem_ofNat hn] at hc
      cases hc
    exact ⟨hchar '\n' (by decide), fun h => hchar '\r' (by decide) (List.mem_of_getLast? h)⟩
  refine (hdigits r.start).append ?_
  split
  · decide
  · exact IsLine.append (a := [',']) (by decide) (hdigits r.count)

theorem spanText_isLine (h : Hunk) : IsLine h.spanText := by
  have hold : IsLine ("@@ -".toList ++ h.old.text) := IsLine.append (by decide) (rangeText_isLine _)
  have hnew : IsLine (" +".toList ++ h.new.text) := IsLine.append (by decide) (rangeText_isLine _)
  rw [show h.spanText = ("@@ -".toList ++ h.old.text) ++ (" +".toList ++ h.new.text) ++ " @@".toList
    from congrArg (· ++ " @@".toList) (List.append_assoc _ _ _)]
  exact (hold.append hnew).append (by decide)

theorem lines_of_hunk_readAlike (h : Hunk) {l : Text} (hl : l ∈ h.lines) : ReadsAlike l := by
  rcases List.mem_cons.1 hl with rfl | hl
  · obtain ⟨hspan, hend⟩ := spanText_isLine h
    constructor
    · rw [List.mem_append, not_or]
      exact ⟨hspan, h.heading_line⟩
    · intro s
      rw [dropSuffix_append_of_getLast?_ne hend, step_spanText, step_spanText]
  · obtain ⟨e, he, hl⟩ := List.mem_flatMap.1 hl
    rcases List.mem_cons.1 hl with rfl | hl
    · exact (h.body_lines e he).readsAlike
    · rw [List.eq_of_mem_replicate hl]
      exact IsLine.readsAlike (by decide)

theorem lines_of_file_readAlike (f : File) {l : Text} (hl : l ∈ f.lines) : ReadsAlike l := by
  have hold : IsLine ("a/".toList ++ f.old) := IsLine.append (by decide) f.old_line
  have hnew : IsLine ("b/".toList ++ f.new) := IsLine.append (by decide) f.new_line
  have hnull : IsLine devNull := by decide
  rw [File.lines, List.append_assoc, List.cons_append, List.mem_cons, List.mem_append,
    List.mem_append, List.mem_pair] at hl
  rcases hl with rfl | hl | (rfl | rfl) | hl
  · have hside : IsLine (" b/".toList ++ f.new) :=
      IsLine.append (a := " ".toList) (by decide) hnew
    exact ((IsLine.append (by decide) hold).append hside).readsAlike
  · obtain ⟨h, hh, rfl⟩ := List.mem_map.1 hl
    exact (f.header_lines h hh).readsAlike
  · refine (IsLine.append (by decide) ?_).readsAlike
    split
    · exact hnull
    · exact hold
  · refine (IsLine.append (by decide) ?_).readsAlike
    split
    · refine hnew.append ?_
      split <;> decide
    · exact hnull
  · obtain ⟨h, -, hl⟩ := List.mem_flatMap.1 hl
    exact lines_of_hunk_readAlike h hl

/-! ## The law -/

theorem shownName_of_plain {name : Text} (htab : '\t' ∉ name)
    (hend : ∀ c, name.getLast? = some c → isBlank c = false) : shownName name = name := by
  have hall : name.takeWhile (· != '\t') = name := by
    rw [List.takeWhile_eq_self_iff]
    intro c hc
    simpa using ne_of_mem_of_not_mem hc htab
  rw [shownName, hall, rdropWhile_of_getLast? hend]

theorem renamedName_of_plain {name : Text} (h : contains "rename from ".toList name = false) :
    renamedName name = name := by
  rw [renamedName, afterLast?_eq_none_iff.2 h]
  rfl

/-- A written diff is read, whatever its bodies say and however each of its lines ends, and into
one file for each that was written, in order, with the path, the status, the old path and all lines
of all hunks. When names can be told from what stands around them on their lines, the path is the
new name, or no file, and the old path the old name. -/
theorem written_files_are_read_back (fs : List File) (returns : Nat → Bool) :
    Diff.read (endLines returns (fs.flatMap File.lines)) = .ok (fs.map File.file) ∧
    ∀ f ∈ fs, f.HasPlainNames →
      f.file.path = (match f.target with | .name _ => f.new | .null => devNull) ∧
      f.file.oldPath = if f.status = .renamed then some f.old else none := by
  refine ⟨?_, ?_⟩
  · exact read_endLines (fun f _ l hl => lines_of_file_readAlike f hl) foldlM_file returns
  · intro f _ hf
    constructor
    · change f.path = _
      unfold File.path
      cases f.target with
      | name tab => exact shownName_of_plain hf.new_tab hf.new_end
      | null => rfl
    · change f.oldPath = _
      rw [File.oldPath, renamedName_of_plain hf.old_words]

/-- A renamed file whose body imitates headers, with remarks and mixed ends of lines, and a deleted
file behind it. -/
theorem hostile_bodies_are_read_back :
    let renamed : File :=
      { old := "b".toList, new := "x b/y".toList, status := .renamed
        headers := [.similarity "90%".toList, .renameFrom, .renameTo], target := .name true
        hunks := [
          { old := { start := 1, count := 2 }, new := { start := 1, count := 1, isShort := true }
            heading := " @@ -1 +1 @@\r".toList
            body := [⟨.removed "-- a/x".toList, 1⟩, ⟨.added "++ b/x".toList, 2⟩,
              ⟨.removed [], 0⟩] },
          { old := { start := 9, count := 1 }, new := { start := 9, count := 2 }
            body := [⟨.added "@@ bad".toList, 0⟩, ⟨.context "diff --git a/y b/y".toList, 0⟩] }] }
    let deleted : File :=
      { old := "z".toList, new := "z".toList, status := .deleted
        headers := [.deletedFile "100644".toList], target := .null
        hunks := [{ old := { start := 1, count := 1 }, new := { start := 0, count := 0 }
                    body := [⟨.removed "+++ b/x".toList, 1⟩] }] }
    Diff.read (endLines (· % 3 = 0) ([renamed, deleted].flatMap File.lines)) =
        .ok [renamed.file, deleted.file] ∧
      renamed.HasPlainNames ∧ renamed.file.path = "x b/y".toList ∧
      renamed.file.oldPath = some "b".toList := by
  intro renamed deleted
  have hread := written_files_are_read_back [renamed, deleted] (· % 3 = 0)
  have hplain : renamed.HasPlainNames := ⟨by decide, by simp [renamed]; decide, by decide⟩
  obtain ⟨hpath, hold⟩ := hread.2 renamed List.mem_cons_self hplain
  exact ⟨hread.1, hplain, hpath, hold⟩

end PinGate.Diff.Written
