/-
# Folders with a single file

A folder may be written with points that lead back up, and what is below it is looked up at the
settled path. Settling a path twice changes nothing more, and a name behind a folder is settled with
it, so the same file is found however the folder was written. A folder that holds one file and
nothing else gives what that file gives (`HoldsOnly.charts_eq`).
-/

import Mathlib.Data.List.Chain
import ChartQuery.Proofs.Library.Growth

namespace ChartQuery

namespace Path

variable {p q : Path}

theorem ending_congr (h : p.name = q.name) : p.ending = q.ending := by
  rw [ending, ending, h]

theorem stem_congr (h : p.name = q.name) : p.stem = q.stem := by
  rw [stem, stem, h]

/-- A path that ends by leading back up has no ending that is loaded. -/
theorem name_ne_up (h : p.ending ∈ sourceEndings) : p.name ≠ (".." : Text) := by
  intro hup
  have hending : p.ending = Path.ending ⟨false, [".."]⟩ := ending_congr hup
  rw [hending] at h
  exact absurd h (by decide)

end Path

namespace FileTree

/-- A path with one name more, where the last name comes first. -/
def settle (kept : List Text) (name : Text) : List Text :=
  match kept with
  | above :: rest => if name = (".." : Text) ∧ above ≠ (".." : Text) then rest else name :: kept
  | [] => [name]

/-- Nothing leads back up but at the beginning; the last name comes first. -/
def IsSettled (kept : List Text) : Prop :=
  kept.IsChain fun name above => name = (".." : Text) → above = (".." : Text)

theorem settledParts_eq (parts : List Text) :
    settledParts parts = (parts.foldl settle []).reverse :=
  rfl

theorem settle_of_ne {name : Text} (h : name ≠ (".." : Text)) (kept : List Text) :
    settle kept name = name :: kept := by
  cases kept with
  | nil => rfl
  | cons above rest => rw [settle, if_neg fun hup => h hup.1]

theorem IsSettled.settle {kept : List Text} (h : IsSettled kept) (name : Text) :
    IsSettled (settle kept name) := by
  cases kept with
  | nil => exact .singleton name
  | cons above rest =>
    rw [FileTree.settle]
    split
    · exact h.tail
    · next hstays =>
      apply List.IsChain.cons_cons
      · intro hup
        by_contra habove
        exact hstays ⟨hup, habove⟩
      · exact h

theorem IsSettled.foldl {kept : List Text} (h : IsSettled kept) (parts : List Text) :
    IsSettled (parts.foldl FileTree.settle kept) := by
  induction parts generalizing kept with
  | nil => exact h
  | cons name rest ih => exact ih (h.settle name)

/-- Settling a settled path takes it name by name as it is. -/
theorem IsSettled.foldl_reverse {kept : List Text} (h : IsSettled kept) :
    kept.reverse.foldl FileTree.settle [] = kept := by
  induction kept with
  | nil => rfl
  | cons name rest ih =>
    rw [List.reverse_cons, List.foldl_append, ih h.tail, List.foldl_cons, List.foldl_nil]
    cases rest with
    | nil => rfl
    | cons above others =>
      have hstays : ¬ (name = (".." : Text) ∧ above ≠ (".." : Text)) := by
        rintro ⟨hup, habove⟩
        exact habove ((List.isChain_cons_cons.mp h).1 hup)
      rw [FileTree.settle, if_neg hstays]

theorem settledParts_settledParts (parts : List Text) :
    settledParts (settledParts parts) = settledParts parts := by
  have hsettled : IsSettled (parts.foldl settle []) := IsSettled.foldl .nil parts
  rw [settledParts_eq (settledParts parts), settledParts_eq parts, hsettled.foldl_reverse]

/-- A name behind a folder stays behind it. -/
theorem settledParts_concat {name : Text} (h : name ≠ (".." : Text)) (parts : List Text) :
    settledParts (parts ++ [name]) = settledParts parts ++ [name] := by
  rw [settledParts_eq, settledParts_eq, List.foldl_append, List.foldl_cons, List.foldl_nil,
    settle_of_ne h, List.reverse_cons]

theorem settled_below {name : Text} (h : name ≠ (".." : Text)) (folder : Path) :
    settled (folder.below [name]) = (settled folder).below [name] := by
  simp [settled, Path.below, settledParts_concat h]

theorem settled_settled_below {name : Text} (h : name ≠ (".." : Text)) (folder : Path) :
    settled ((settled folder).below [name]) = (settled folder).below [name] := by
  rw [settled_below h]
  simp [settled, settledParts_settledParts]

/-- What is found at a path is found at every way to write it. -/
theorem find_congr (tree : FileTree) {p q : Path} (h : settled p = settled q) :
    tree.find p = tree.find q := by
  rw [find, find, h]

theorem isBelow_below (folder : Path) (name : Text) :
    isBelow folder (folder.below [name]) = true := by
  simp [isBelow, Path.below]

/-- A file that is found stands among the files. -/
theorem exists_source_of_find {tree : FileTree} {p : Path} {bytes : List UInt8}
    (h : tree.find p = some (.file bytes)) : ∃ s ∈ tree.sources, s.path = settled p := by
  rw [find] at h
  split at h
  · next s hs =>
    exact ⟨s, by simpa using List.mem_of_find?_eq_some hs, by simpa using List.find?_some hs⟩
  · split at h <;> cases h

/-- A folder is there when something stands below it. -/
theorem exists_find_of_isBelow {tree : FileTree} {folder : Path} {s : Source}
    (hs : s ∈ tree.sources) (h : isBelow (settled folder) s.path = true) :
    ∃ item, tree.find folder = some item := by
  have hany : tree.sources.any (fun s => isBelow (settled folder) s.path) = true :=
    List.any_eq_true.mpr ⟨s, hs, h⟩
  rw [find]
  split
  · next found _ => exact ⟨found.item, rfl⟩
  · exact ⟨.folder, if_pos hany⟩

/-- Nothing stands between a folder and what it holds itself. -/
theorem foldersBetween_below (folder : Path) (name : Text) :
    foldersBetween folder (folder.below [name]) = [] := by
  simp [foldersBetween, Path.below]

theorem eraseDups_eq_singleton {α : Type} [BEq α] [LawfulBEq α] {a : α} {items : List α}
    (hmem : a ∈ items) (hall : ∀ b ∈ items, b = a) : items.eraseDups = [a] := by
  cases items with
  | nil => cases hmem
  | cons first rest =>
    obtain rfl : first = a := hall first List.mem_cons_self
    have hnone : rest.filter (fun b => !b == first) = [] := by
      apply List.filter_eq_nil_iff.mpr
      intro b hb
      simp [hall b (List.mem_cons_of_mem _ hb)]
    rw [List.eraseDups_cons, hnone, List.eraseDups_nil]

/-- A folder holds a file of this name with these bytes, and nothing else at any depth. -/
structure HoldsOnly (tree : FileTree) (folder : Path) (name : Text) (bytes : List UInt8) :
    Prop where
  file : tree.find (folder.below [name]) = some (.file bytes)
  only : ∀ s ∈ tree.sources, isBelow (settled folder) s.path = true →
    s.path = (settled folder).below [name]

namespace HoldsOnly

variable {tree : FileTree} {folder : Path} {name : Text} {bytes : List UInt8}

theorem exists_source (h : tree.HoldsOnly folder name bytes) (hname : name ≠ (".." : Text)) :
    ∃ s ∈ tree.sources, s.path = (settled folder).below [name] := by
  obtain ⟨s, hs, hpath⟩ := exists_source_of_find h.file
  exact ⟨s, hs, hpath.trans (settled_below hname folder)⟩

/-- The path of the file is the only one below the folder. -/
theorem pathsBelow_eq (h : tree.HoldsOnly folder name bytes) (hname : name ≠ (".." : Text)) :
    pathsBelow tree (settled folder) = [(settled folder).below [name]] := by
  have hall : ∀ p ∈ (tree.sources.map (·.path)).filter (isBelow (settled folder)),
      p = (settled folder).below [name] := by
    intro p hp
    obtain ⟨hsource, hbelow⟩ := List.mem_filter.mp hp
    obtain ⟨s, hs, rfl⟩ := List.mem_map.mp hsource
    exact h.only s hs hbelow
  have hmem : (settled folder).below [name] ∈
      (tree.sources.map (·.path)).filter (isBelow (settled folder)) := by
    obtain ⟨s, hs, hpath⟩ := h.exists_source hname
    apply List.mem_filter.mpr
    exact ⟨hpath ▸ List.mem_map_of_mem hs, isBelow_below _ _⟩
  rw [pathsBelow]
  apply eraseDups_eq_singleton
  · apply List.mem_flatMap.mpr
    exact ⟨_, hmem, by simp⟩
  · intro p hp
    obtain ⟨q, hq, hpq⟩ := List.mem_flatMap.mp hp
    rw [hall q hq, foldersBetween_below] at hpq
    simpa using hpq

/-- Nothing is below the folder but the file. -/
theorem below_eq (h : tree.HoldsOnly folder name bytes) (hname : name ≠ (".." : Text)) :
    tree.below folder = [⟨folder.below [name], .file bytes⟩] := by
  have hfound : tree.find ((settled folder).below [name]) = some (.file bytes) := by
    rw [← h.file]
    apply find_congr
    rw [settled_settled_below hname, settled_below hname]
  have hmore : ((settled folder).below [name]).parts.drop (settled folder).parts.length =
      [name] := by
    simp [Path.below]
  simp only [below, h.pathsBelow_eq hname, List.filterMap_cons, List.filterMap_nil, hfound,
    Option.map_some, hmore, List.mergeSort_singleton]

/-- The folder gives what its file gives. -/
theorem charts_eq (h : tree.HoldsOnly folder name bytes)
    (hending : (folder.below [name]).ending ∈ sourceEndings) :
    tree.charts folder = Source.charts ⟨folder.below [name], .file bytes⟩ := by
  have hname : name ≠ (".." : Text) := by
    simpa [Path.name, Path.below] using Path.name_ne_up hending
  have hsources : tree.sourcesIn folder = .ok [⟨folder.below [name], .file bytes⟩] := by
    obtain ⟨s, hs, hpath⟩ := h.exists_source hname
    obtain ⟨item, hitem⟩ :=
      exists_find_of_isBelow hs (hpath ▸ isBelow_below (settled folder) name)
    simp [sourcesIn, hitem, h.below_eq hname, hending]
  rw [FileTree.charts, hsources]
  simp

end HoldsOnly

end FileTree

end ChartQuery
