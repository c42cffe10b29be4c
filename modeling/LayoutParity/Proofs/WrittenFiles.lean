import LayoutParity.Proofs.CheckPlans

/-!
# What is written to a file tree

Whether a text can be written to a path does not depend on the text (`FileTree.Writable`). Writing
sets what is found at one place and nothing else (`FileTree.node?_of_writeText`). The place was no
directory, so the directories are the same as before (`FileTree.sameDirectories_of_writeText`), and
they alone decide where a path leads (`FileTree.SameDirectories.locate`). So what was written is
read back under the path that it was written to (`FileTree.readText_of_writeText`).
-/

namespace LayoutParity

namespace FileTree

variable {tree written : FileTree} {path text : String}

/-! ## What can be written -/

/-- Whether a text can be written to a path, whatever the text is. -/
def Writable (tree : FileTree) (path : String) : Prop :=
  ∀ text, ∃ written, tree.writeText path text = .ok written

/-- A text is written to what is no directory, and sets the entry of this place. -/
theorem writeText_eq_ok_iff :
    tree.writeText path text = .ok written ↔
      endsInSlash path = false ∧ ∃ place, tree.locate path = .ok place ∧
        tree.node? place ≠ some .directory ∧
        { tree with entries := setEntry place (.file text.toUTF8) tree.entries } = written := by
  rw [writeText]
  cases endsInSlash path with
  | true => simp [bind_eq_ok_iff]
  | false =>
    simp only [Bool.false_eq_true, if_false, true_and]
    refine bind_eq_ok_iff.trans (exists_congr fun place => and_congr_right fun _ => ?_)
    cases tree.node? place with
    | none => simp [pure, Except.pure]
    | some node => cases node <;> simp [pure, Except.pure]

/-- Where one text is written, any other can be. -/
theorem writable_of_writeText (h : tree.writeText path text = .ok written) :
    tree.Writable path := by
  obtain ⟨hslash, place, hplace, hnode, -⟩ := writeText_eq_ok_iff.1 h
  exact fun other => ⟨_, writeText_eq_ok_iff.2 ⟨hslash, place, hplace, hnode, rfl⟩⟩

/-- A path can be written to if it leads to a place that is no directory, and does not end as the
path of a directory. -/
theorem writable_iff :
    tree.Writable path ↔ endsInSlash path = false ∧
      ∃ place, tree.locate path = .ok place ∧ tree.node? place ≠ some .directory := by
  constructor
  · intro h
    obtain ⟨written, hw⟩ := h ""
    obtain ⟨hslash, place, hplace, hnode, -⟩ := writeText_eq_ok_iff.1 hw
    exact ⟨hslash, place, hplace, hnode⟩
  · rintro ⟨hslash, place, hplace, hnode⟩ text
    exact ⟨_, writeText_eq_ok_iff.2 ⟨hslash, place, hplace, hnode, rfl⟩⟩

theorem Writable.isDirectory_eq_false (h : tree.Writable path) : tree.isDirectory path = false := by
  obtain ⟨-, place, hplace, hnode⟩ := writable_iff.1 h
  rw [isDirectory, hplace]
  dsimp only
  rw [requireDirectory]
  split
  · contradiction
  · rfl
  · rfl

/-- The bytes that are read of a path are those of the file that it leads to. -/
theorem readBytes_eq_ok_iff {content : ByteArray} :
    tree.readBytes path = .ok content ↔
      endsInSlash path = false ∧ ∃ place, tree.locate path = .ok place ∧
        tree.node? place = some (.file content) := by
  refine bind_eq_ok_iff.trans ⟨?_, ?_⟩
  · rintro ⟨place, hplace, h⟩
    cases hnode : tree.node? place with
    | none => simp [hnode] at h
    | some node =>
      cases node with
      | directory => simp [hnode] at h
      | file found =>
        cases hslash : endsInSlash path with
        | true => simp [hnode, hslash] at h
        | false =>
          obtain rfl : found = content := by
            simpa [hnode, hslash, pure, Except.pure] using h
          exact ⟨rfl, place, hplace, hnode⟩
  · rintro ⟨hslash, place, hplace, hnode⟩
    refine ⟨place, hplace, ?_⟩
    rw [hnode, hslash]
    rfl

/-- A file that can be read can be written. -/
theorem writable_of_readText (h : tree.readText path = .ok text) : tree.Writable path := by
  obtain ⟨content, hread, -⟩ := bind_eq_ok_iff.1 h
  obtain ⟨hslash, place, hplace, hnode⟩ := readBytes_eq_ok_iff.1 hread
  exact writable_iff.2 ⟨hslash, place, hplace, by simp [hnode]⟩

/-! ## What is found afterwards -/

/-- What is looked up is found in the first entry if it has the place, and in the others if not. -/
theorem lookup_entry (place other : Place) (node : FileNode) (entries : List (Place × FileNode)) :
    ((place, node) :: entries).lookup other =
      if other = place then some node else entries.lookup other := by
  rw [List.lookup_cons]
  by_cases h : other = place
  · rw [beq_iff_eq.2 h, if_pos h]
  · rw [beq_eq_false_iff_ne.2 h, if_neg h]

/-- One entry is set, and at every other place is found what was found there. -/
theorem lookup_setEntry (place other : Place) (node : FileNode)
    (entries : List (Place × FileNode)) :
    (setEntry place node entries).lookup other =
      if other = place then some node else entries.lookup other := by
  induction entries with
  | nil => exact lookup_entry ..
  | cons entry rest ih =>
    obtain ⟨first, found⟩ := entry
    rw [setEntry]
    by_cases hfirst : first = place
    · rw [if_pos hfirst, lookup_entry, lookup_entry, hfirst]
      split <;> rfl
    · rw [if_neg hfirst, lookup_entry, lookup_entry, ih]
      by_cases hother : other = first
      · rw [if_pos hother, if_pos hother, if_neg (hother ▸ hfirst)]
      · rw [if_neg hother, if_neg hother]

/-- Writing puts the file of the text at the place that the path leads to, where no directory was,
and leaves every other place as it is. -/
theorem node?_of_writeText (h : tree.writeText path text = .ok written) :
    ∃ place, tree.locate path = .ok place ∧ tree.node? place ≠ some .directory ∧
      written.node? place = some (.file text.toUTF8) ∧
      ∀ other, other ≠ place → written.node? other = tree.node? other := by
  obtain ⟨-, place, hplace, hdirectory, rfl⟩ := writeText_eq_ok_iff.1 h
  refine ⟨place, hplace, hdirectory, ?_, fun other hother => ?_⟩
  · cases place with
    | nil => exact absurd rfl hdirectory
    | cons name names => exact (lookup_setEntry ..).trans (if_pos rfl)
  · cases other with
    | nil => rfl
    | cons name names => exact (lookup_setEntry ..).trans (if_neg hother)

theorem workingDirectory_of_writeText (h : tree.writeText path text = .ok written) :
    written.workingDirectory = tree.workingDirectory := by
  obtain ⟨-, place, -, -, rfl⟩ := writeText_eq_ok_iff.1 h
  rfl

/-! ## Trees with the same directories -/

/-- Two trees have the same directories, and a program runs in the same one of them. Which files
they have, and what these hold, may differ. -/
structure SameDirectories (tree other : FileTree) : Prop where
  working : tree.workingDirectory = other.workingDirectory
  directories : ∀ place, tree.node? place = some .directory ↔ other.node? place = some .directory

/-- Writing makes no directory and removes none. -/
theorem sameDirectories_of_writeText (h : tree.writeText path text = .ok written) :
    tree.SameDirectories written := by
  obtain ⟨set, -, hdirectory, hnode, hothers⟩ := node?_of_writeText h
  refine ⟨(workingDirectory_of_writeText h).symm, fun place => ?_⟩
  by_cases hplace : place = set
  · rw [hplace, hnode]
    exact iff_of_false hdirectory (by simp)
  · rw [hothers place hplace]

theorem requireDirectory_eq_ok_iff {place : Place} :
    tree.requireDirectory place = .ok () ↔ tree.node? place = some .directory := by
  rw [requireDirectory]
  split <;> simp_all

namespace SameDirectories

variable {other : FileTree}

theorem symm (h : tree.SameDirectories other) : other.SameDirectories tree :=
  ⟨h.working.symm, fun place => (h.directories place).symm⟩

/-- A name that leads from one place to another in one tree does so in the other. -/
theorem follow (h : tree.SameDirectories other) {place next : Place} {name : String}
    (hf : tree.follow place name = .ok next) : other.follow place name = .ok next := by
  unfold FileTree.follow at hf ⊢
  obtain ⟨_, hd, hnext⟩ := bind_eq_ok_iff.1 hf
  have hplace := (h.directories place).1 (requireDirectory_eq_ok_iff.1 hd)
  exact bind_eq_ok_iff.2 ⟨(), requireDirectory_eq_ok_iff.2 hplace, hnext⟩

/-- A path that leads somewhere in one tree leads there in the other. -/
theorem locate (h : tree.SameDirectories other) {place : Place}
    (hplace : tree.locate path = .ok place) : other.locate path = .ok place := by
  have hfollow (names : List String) (first : Place)
      (hfirst : names.foldlM tree.follow first = .ok place) :
      names.foldlM other.follow first = .ok place := by
    induction names generalizing first with
    | nil => exact hfirst
    | cons name names ih =>
      rw [List.foldlM_cons] at hfirst ⊢
      obtain ⟨next, hn, hrest⟩ := bind_eq_ok_iff.1 hfirst
      exact bind_eq_ok_iff.2 ⟨next, h.follow hn, ih next hrest⟩
  have hstart : tree.start path = other.start path := by
    rw [start, start, h.working]
  rw [FileTree.locate] at hplace ⊢
  obtain ⟨_, hc, hnames⟩ := bind_eq_ok_iff.1 hplace
  exact bind_eq_ok_iff.2 ⟨(), hc, hstart ▸ hfollow _ _ hnames⟩

theorem writable (h : tree.SameDirectories other) (hw : tree.Writable path) :
    other.Writable path := by
  obtain ⟨hslash, place, hplace, hnode⟩ := writable_iff.1 hw
  exact writable_iff.2
    ⟨hslash, place, h.locate hplace, fun hd => hnode ((h.directories place).2 hd)⟩

end SameDirectories

/-- What was written is read under the same path. -/
theorem readText_of_writeText (h : tree.writeText path text = .ok written) :
    written.readText path = .ok text := by
  obtain ⟨hslash, -⟩ := writeText_eq_ok_iff.1 h
  obtain ⟨place, hplace, -, hnode, -⟩ := node?_of_writeText h
  have hlocated := (sameDirectories_of_writeText h).locate hplace
  exact readText_of_readBytes (readBytes_eq_ok_iff.2 ⟨hslash, _, hlocated, hnode⟩)

end FileTree

end LayoutParity
