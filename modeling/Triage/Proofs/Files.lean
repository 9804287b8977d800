import Mathlib.Data.List.Basic
import Triage.Files

/-!
This module contains what is found in a tree of files after directories have been made and a file has been written: the
file can be read where it has been written, and the directories on the way to it are still there. No change of the files puts
two entries at one path, so a directory has each of its names once.
-/

namespace Triage
namespace Files

variable {files files' : Files} {path : List String} {entry : Entry} {names : List String}

theorem lookup?_put (files : Files) (path : List String) (entry : Entry) (other : List String) :
    (files.put path entry).lookup? other =
      if isOutermost other then some .directory else if other = path then some entry else files.lookup? other := by
  have hlookup (entries : List (List String × Entry)) (hne : other ≠ path) :
      (entries.filter (·.1 ≠ path)).lookup other = entries.lookup other := by
    induction entries with
    | nil => rfl
    | cons e rest ih =>
      obtain ⟨key, old⟩ := e
      by_cases hkey : key = path
      . subst hkey
        rw [List.filter_cons_of_neg (by simp), ih, List.lookup_cons, beq_false_of_ne hne]
      . rw [List.filter_cons_of_pos (by simp [hkey]), List.lookup_cons, List.lookup_cons, ih]
  unfold lookup? put
  dsimp only
  split
  . rfl
  . split
    . next hpath =>
      rw [List.lookup_cons, beq_iff_eq.mpr hpath]
    . next hpath =>
      rw [List.lookup_cons, beq_false_of_ne hpath, hlookup _ hpath]

theorem lookup?_put_of_ne {other : List String} (h : other ≠ path) : (files.put path entry).lookup? other = files.lookup? other := by
  rw [lookup?_put, if_neg h]
  split
  . next houter =>
    unfold lookup?
    rw [if_pos houter]
  . rfl

/--
Whether all directories are there through which names lead, from the first one to the last one.
-/
def HasDirectories (files : Files) (path : List String) : List String → Prop
  | [] => files.lookup? path = some .directory
  | name :: names => files.lookup? path = some .directory ∧ files.HasDirectories (follow path name) names

theorem HasDirectories.first (h : files.HasDirectories path names) : files.lookup? path = some .directory := by
  cases names with
  | nil => exact h
  | cons name names => exact h.1

theorem HasDirectories.last (h : files.HasDirectories path names) :
    files.lookup? (names.foldl follow path) = some .directory := by
  induction names generalizing path with
  | nil => exact h
  | cons name names ih => exact ih h.2

theorem HasDirectories.of_directories (h : files.HasDirectories path names)
    (hkeeps : ∀ path, files.lookup? path = some .directory → files'.lookup? path = some .directory) :
    files'.HasDirectories path names := by
  induction names generalizing path with
  | nil => exact hkeeps path h
  | cons name names ih => exact ⟨hkeeps path h.1, ih h.2⟩

theorem HasDirectories.makeDirectories (h : files.HasDirectories path names) :
    files.makeDirectories path names = .ok files := by
  induction names generalizing path with
  | nil => rfl
  | cons name names ih =>
    have hrest := ih h.2
    have hfirst := h.2.first
    unfold follow at hrest hfirst
    unfold Files.makeDirectories
    split
    . next hname =>
      rwa [if_pos hname] at hrest
    . next hname =>
      rw [if_neg hname] at hrest hfirst
      dsimp only
      rw [hfirst]
      exact hrest

/--
A path can be followed exactly if all directories before its last part are there.
-/
theorem walk_concat_eq_ok_iff {parts : List String} {last : String} {target : List String} :
    files.walk path (parts ++ [last]) = .ok target ↔
      files.HasDirectories path (parts.filter isName) ∧
        (if isName last then follow ((parts.filter isName).foldl follow path) last
          else (parts.filter isName).foldl follow path) = target := by
  induction parts generalizing path with
  | nil =>
    rw [List.nil_append, walk, List.filter_nil, List.foldl_nil]
    unfold HasDirectories
    split
    . next hentry =>
      rw [hentry]
      split <;> simp [walk]
    . next hentry =>
      rw [hentry]
      simp_all
    . next hentry =>
      rw [hentry]
      simp
  | cons part parts ih =>
    rw [List.cons_append, walk]
    split
    . next hentry =>
      cases hname : isName part with
      | true =>
        rw [List.filter_cons_of_pos hname, if_pos rfl, ih, List.foldl_cons, HasDirectories, and_assoc]
        simp [hentry]
      | false =>
        rw [List.filter_cons_of_neg (by simp [hname]), if_neg Bool.false_ne_true, ih]
    . next entry hentry hne =>
      constructor
      . intro h
        contradiction
      . intro h
        have hfirst := h.1.first
        rw [hne, Option.some.injEq] at hfirst
        contradiction
    . next hentry =>
      constructor
      . intro h
        contradiction
      . intro h
        have hfirst := h.1.first
        rw [hentry] at hfirst
        contradiction

/--
A path that leads to no directory ends in a name, and all directories before it are there.
-/
theorem names_of_locate {text : String} {target : List String} (h : files.locate text = .ok target)
    (hne : files.lookup? target ≠ some .directory) :
    ∃ parts last, Files.parts text = parts ++ [last] ∧ isName last = true ∧
      files.HasDirectories (origin text) (parts.filter isName) ∧
      follow ((parts.filter isName).foldl follow (origin text)) last = target := by
  have horigin : files.lookup? (origin text) = some .directory := by
    unfold lookup? origin
    split <;> rfl
  unfold locate at h
  split at h
  . contradiction
  . cases List.eq_nil_or_concat (Files.parts text) with
    | inl hnil =>
      rw [hnil] at h
      cases h
      contradiction
    | inr hconcat =>
      obtain ⟨parts, last, hparts⟩ := hconcat
      rw [List.concat_eq_append] at hparts
      rw [hparts, walk_concat_eq_ok_iff] at h
      obtain ⟨hdirectories, htarget⟩ := h
      split at htarget
      . next hlast => exact ⟨parts, last, hparts, hlast, hdirectories, htarget⟩
      . rw [← htarget] at hne
        exact absurd hdirectories.last hne

/--
What stands in a tree of files stays there when an entry is written elsewhere.
-/
theorem lookup?_write {text : String} {old : Entry} (entry : Entry) (h : files.lookup? path = some old)
    (hpath : path ≠ (pathNames text).foldl follow (origin text)) :
    (files.write text entry).lookup? path = some old := by
  have hparents (parents : List (List String)) :
      (parents.foldl (fun files parent => if (files.lookup? parent).isNone then files.put parent .directory else files)
        files).lookup? path = some old := by
    induction parents generalizing files with
    | nil => exact h
    | cons parent parents ih =>
      rw [List.foldl_cons]
      apply ih
      split
      . next hnone =>
        have hne : path ≠ parent := by
          rintro rfl
          rw [h] at hnone
          contradiction
        rw [lookup?_put_of_ne hne, h]
      . exact h
  unfold write
  dsimp only
  rw [lookup?_put_of_ne hpath, hparents]

/--
What has been written at a path that led to no directory is found there, and no directory before it has gone.
-/
theorem locate_write {text : String} {target : List String} (h : files.locate text = .ok target)
    (hne : files.lookup? target ≠ some .directory) (entry : Entry) :
    (files.write text entry).locate text = .ok target ∧ (files.write text entry).lookup? target = some entry ∧
      (files.write text entry).makeDirectories (origin text) (pathNames text).dropLast = .ok (files.write text entry) := by
  obtain ⟨parts, last, hparts, hlast, hdirectories, htarget⟩ := names_of_locate h hne
  have hnames : pathNames text = parts.filter isName ++ [last] := by
    unfold pathNames
    rw [hparts, List.filter_append, List.filter_cons_of_pos hlast, List.filter_nil]
  have hfold : (pathNames text).foldl follow (origin text) = target := by
    rw [hnames, List.foldl_append]
    exact htarget
  have hstill : (files.write text entry).HasDirectories (origin text) (parts.filter isName) := by
    apply hdirectories.of_directories
    intro path hpath
    apply lookup?_write entry hpath
    rintro rfl
    rw [hfold] at hpath
    exact hne hpath
  refine ⟨?_, ?_, ?_⟩
  . unfold locate at h ⊢
    split at h
    . contradiction
    . next hempty =>
      rw [if_neg hempty, hparts, walk_concat_eq_ok_iff, if_pos hlast]
      exact ⟨hstill, htarget⟩
  . have houter : isOutermost target = false := by
      cases houter : isOutermost target with
      | false => rfl
      | true =>
        unfold lookup? at hne
        rw [if_pos houter] at hne
        contradiction
    unfold write
    dsimp only
    rw [hfold, lookup?_put, houter, if_neg Bool.false_ne_true, if_pos rfl]
  . rw [hnames, List.dropLast_concat]
    exact hstill.makeDirectories

theorem read_of_lookup? {path text : String} {target : List String}
    (hlocate : (files.locate path).toOption = some target) (hlookup : files.lookup? target = some (.text text)) :
    files.read path = .ok text := by
  unfold read find
  cases hresult : files.locate path with
  | error e =>
    rw [hresult] at hlocate
    cases hlocate
  | ok other =>
    rw [hresult] at hlocate
    cases hlocate
    dsimp only [Bind.bind, Except.bind]
    rw [hlookup]

theorem isFile_of_read {path text : String} (h : files.read path = .ok text) :
    files.isFile path = true := by
  unfold Files.read at h
  unfold Files.isFile
  cases hfind : files.find path with
  | error e =>
    rw [hfind] at h
    cases h
  | ok entry =>
    rw [hfind] at h
    cases entry with
    | text => rfl
    | binary => rfl
    | directory => cases h

/-! The names in a directory. -/

/--
Whether no path leads to two entries.
-/
def Unambiguous (files : Files) : Prop :=
  files.entries.Pairwise fun a b => a.1 ≠ b.1

instance (files : Files) : Decidable files.Unambiguous :=
  inferInstanceAs (Decidable (files.entries.Pairwise fun a b => a.1 ≠ b.1))

theorem Unambiguous.put (h : files.Unambiguous) (path : List String) (entry : Entry) :
    (files.put path entry).Unambiguous := by
  unfold Unambiguous Files.put
  apply List.Pairwise.cons
  . intro old hold
    simp only [List.mem_filter, ne_eq, decide_eq_true_eq] at hold
    exact Ne.symm hold.2
  . apply List.Pairwise.filter
    exact h

theorem Unambiguous.delete (h : files.Unambiguous) (text : String) : (files.delete text).Unambiguous := by
  unfold Files.delete
  split
  . exact h
  . apply List.Pairwise.filter
    exact h

theorem Unambiguous.write (h : files.Unambiguous) (text : String) (entry : Entry) :
    (files.write text entry).Unambiguous := by
  have hparents (parents : List (List String)) :
      (parents.foldl (fun files parent => if (files.lookup? parent).isNone then files.put parent .directory else files)
        files).Unambiguous := by
    induction parents generalizing files with
    | nil => exact h
    | cons parent parents ih =>
      rw [List.foldl_cons]
      apply ih
      split
      . apply h.put
      . exact h
  unfold Files.write
  apply Unambiguous.put
  apply hparents

theorem Unambiguous.makeDirectories (h : files.Unambiguous) (hmade : files.makeDirectories path names = .ok files') :
    files'.Unambiguous := by
  induction names generalizing files path with
  | nil =>
    cases hmade
    exact h
  | cons name names ih =>
    unfold Files.makeDirectories at hmade
    dsimp only at hmade
    split at hmade
    . exact ih h hmade
    . split at hmade
      . exact ih (h.put _ _) hmade
      . exact ih h hmade
      . cases hmade

/--
The names in a directory are those under which something is found there.
-/
theorem mem_names_iff {directory name : String} (hname : name ≠ ".." ∧ name ≠ "/") :
    name ∈ files.names directory ↔
      ∃ path, files.locate directory = .ok path ∧ (files.lookup? (path ++ [name])).isSome = true := by
  have houter (path : List String) : isOutermost (path ++ [name]) = false := by
    unfold isOutermost
    simp [hname.1, hname.2, List.append_eq_singleton_iff]
  unfold names
  cases hlocate : files.locate directory with
  | error e => simp
  | ok path =>
    have hlast (other : List String) :
        (if other.dropLast = path then other.getLast? else Option.none) = some name ↔ other = path ++ [name] := by
      constructor
      . intro h
        split at h
        . next hpath => rw [← hpath, List.dropLast_append_getLast? name h]
        . cases h
      . rintro rfl
        simp
    dsimp only
    simp only [List.mem_filterMap, Except.ok.injEq, exists_eq_left', Prod.exists, hlast]
    unfold lookup?
    rw [houter, if_neg Bool.false_ne_true]
    simp

theorem Unambiguous.nodup_names (h : files.Unambiguous) (directory : String) : (files.names directory).Nodup := by
  unfold names
  split
  . exact List.nodup_nil
  . apply List.Pairwise.filterMap _ _ h
    intro a b hne name hname other hother heq
    subst heq
    dsimp only at hname hother
    split at hname
    . next hpath =>
      split at hother
      . next hpath' =>
        apply hne
        rw [← List.dropLast_append_getLast? name hname, ← List.dropLast_append_getLast? name hother, hpath, hpath']
      . cases hother
    . cases hname

end Files
end Triage
