import Triage.Proofs.Repair.Cut
import Triage.Proofs.Repair.Rounds
import Triage.Proofs.Repair.Stray

/-!
This module contains what the rounds of a repair do to the text of an object with stray commas in front of its closing
brackets. A round takes one comma from every run and leaves all else as it is, but for some blanks.
-/

namespace Triage
namespace Json
namespace Reader

open Repair Text

variable {limit n : Nat} {r r' next : Reader} {run cs : List Char} {c : Char} {members : List (String × Json)}

theorem lineFeeds_stray (hc : isCloser c = true) :
    lineFeeds (run ++ c :: cs) = lineFeeds run ++ c :: lineFeeds cs := by
  have hreturn : c ≠ '\r' := ne_of_isBlank (isBlank_of_isCloser hc) rfl
  rw [lineFeeds_append (ne_of_isBlank (isBlank_of_isCloser hc) rfl)]
  simp [lineFeeds, hreturn]

theorem Lenient.of_space {d : Char} {ds : List Char} (hplace : r.phase.place = .outside)
    (hstep : ∀ c, (∀ state, extend? state c = none) → r.step limit c = next.step limit c) (hd : isSpace d = true)
    (h : Lenient limit next (d :: ds) r' n) : Lenient limit r (d :: ds) r' n := by
  generalize hcs : d :: ds = cs at h
  cases h with
  | nil => contradiction
  | step h hrest =>
    obtain ⟨rfl, rfl⟩ := List.cons.inj hcs
    rw [← hstep d (extend?_of_isSpace hd)] at h
    exact .step h hrest
  | stray _ hrun hc h hrest =>
    rw [← hstep _ (extend?_of_isCloser hc)] at h
    exact .stray hplace hrun hc h hrest

theorem Lenient.lineFeeds (h : Lenient limit r cs r' n) (hr : r.Sound) : Lenient limit r (lineFeeds cs) r' n := by
  induction h with
  | nil => exact .nil
  | @step _ _ _ c cs _ h hrest ih =>
    have hmove := move_of_step h
    have hnext := ih (hmove.sound hr)
    simp only [Text.lineFeeds]
    split
    . next hreturn =>
      -- The carriage return is a blank in front of a line break, so it stands outside of strings.
      obtain ⟨rfl, hhead⟩ := hreturn
      obtain ⟨rest, rfl⟩ := List.head?_eq_some_iff.mp hhead
      cases hmove.of_isBlank hr rfl with
      | inl hinside => exact absurd rfl ((hrest.tidy (hmove.sound hr)).2.1 hinside.2)
      | inr houtside => exact Lenient.of_space houtside.2.1 houtside.2.2.2 rfl hnext
    . exact .step h hnext
  | @stray _ _ _ run _ _ _ hplace hrun hc h _ ih =>
    rw [lineFeeds_stray hc, ← count_lineFeeds (by decide) run]
    exact .stray hplace (fun d hd => hrun d ((lineFeeds_sublist run).mem hd)) hc h (ih ((move_of_step h).sound hr))

theorem Lenient.trimStart (h : Lenient limit start cs r' n) : Lenient limit start (trimStart cs) r' n := by
  generalize hstart : start = r at h
  induction h with
  | nil => exact .nil
  | @step _ _ _ c cs _ h hrest ih =>
    subst hstart
    unfold Text.trimStart at ih ⊢
    rw [List.dropWhile_cons]
    split
    . next hblank =>
      rw [eq_start_of_step h hblank] at ih
      exact ih rfl
    . exact .step h hrest
  | stray _ _ hc h =>
    subst hstart
    rw [not_closer_of_start h] at hc
    contradiction

theorem next_of_isCloser (hc : isCloser c = true) : Place.next .outside c = .outside := by
  rcases isCloser_eq_true_iff.mp hc with rfl | rfl <;> rfl

theorem dropCommas_go_spaces (hrun : ∀ d ∈ run, isSpace d = true) (hc : isCloser c = true) :
    dropCommas.go .outside true (run ++ c :: cs) = c :: dropCommas.go .outside false cs := by
  induction run with
  | nil => simp [dropCommas.go, isBlank_of_isCloser hc, ne_comma_of_isCloser hc, next_of_isCloser hc]
  | cons d run ih =>
    rw [List.forall_mem_cons] at hrun
    rw [List.cons_append, dropCommas.go, isBlank_of_isSpace hrun.1]
    exact ih hrun.2

theorem dropCommas_go_stray (cs : List Char) (hrun : ∀ d ∈ run, isStray d = true) (hc : isCloser c = true) :
    ∃ kept, (∀ d ∈ kept, isStray d = true) ∧ kept.count ',' = run.count ',' - 1 ∧
      dropCommas.go .outside false (run ++ c :: cs) = kept ++ c :: dropCommas.go .outside false cs := by
  induction run with
  | nil =>
    refine ⟨[], hrun, rfl, ?_⟩
    simp [dropCommas.go, ne_comma_of_isCloser hc, next_of_isCloser hc]
  | cons d run ih =>
    rw [List.forall_mem_cons] at hrun
    obtain ⟨kept, hkept, hcount, hgo⟩ := ih hrun.2
    -- Only the last comma of the run is dropped, and the blanks behind it are dropped with it.
    by_cases hlast : d = ',' ∧ ',' ∉ run
    . obtain ⟨rfl, hcomma⟩ := hlast
      refine ⟨[], List.forall_mem_nil _, ?_, ?_⟩
      . rw [List.count_cons_self, List.count_eq_zero.mpr hcomma]
        rfl
      . rw [List.cons_append, dropCommas.go, if_neg (by simp),
          if_pos ⟨rfl, rfl, (closesNext_stray hrun.2 hc).mpr hcomma⟩]
        exact dropCommas_go_spaces (isSpace_of_not_comma hrun.2 hcomma) hc
    . refine ⟨d :: kept, List.forall_mem_cons.mpr ⟨hrun.1, hkept⟩, ?_, ?_⟩
      . rw [List.count_cons, List.count_cons, hcount]
        by_cases hd : d = ','
        . have hmem : ',' ∈ run := Classical.byContradiction fun hcomma => hlast ⟨hd, hcomma⟩
          have := List.count_pos_iff.mpr hmem
          simp [hd]
          omega
        . simp [hd]
      . have hgoes : ¬ (Place.outside = .outside ∧ d = ',' ∧ closesNext (run ++ c :: cs) = true) := by
          rintro ⟨-, hd, hcloses⟩
          exact hlast ⟨hd, (closesNext_stray hrun.2 hc).mp hcloses⟩
        rw [List.cons_append, dropCommas.go, if_neg (by simp), if_neg hgoes, next_of_isStray hrun.1, hgo,
          List.cons_append]

theorem Lenient.closesNext (h : Lenient limit r cs r' n) (hr : r.BehindComma) : closesNext cs = false := by
  induction h with
  | nil => rfl
  | step h _ ih =>
    unfold Repair.closesNext
    cases (move_of_step h).of_behindComma hr with
    | inl hblank =>
      rw [if_pos hblank.1]
      exact ih hblank.2
    | inr hother => rw [hother.1, if_neg Bool.false_ne_true, hother.2]
  | stray _ _ hc h =>
    -- Behind a comma that has been read, no closing bracket can be read.
    rcases (move_of_step h).of_behindComma hr with ⟨hblank, -⟩ | ⟨-, hother⟩
    . rw [isBlank_of_isCloser hc] at hblank
      contradiction
    . rw [hc] at hother
      contradiction

theorem Lenient.dropCommas_go (h : Lenient limit r cs r' n) (hr : r.Sound) :
    Lenient limit r (dropCommas.go r.phase.place false cs) r' (n - 1) := by
  induction h with
  | nil => exact .nil
  | @step r _ _ c cs _ h hrest ih =>
    have hmove := move_of_step h
    have hkept : ¬ (r.phase.place = .outside ∧ c = ',' ∧ Repair.closesNext cs = true) := by
      rintro ⟨houtside, hc, hcloses⟩
      rw [hrest.closesNext (hmove.behindComma hc hr houtside)] at hcloses
      contradiction
    rw [dropCommas.go, Bool.false_and, if_neg Bool.false_ne_true, if_neg hkept, hmove.place hr]
    exact .step h (ih (hmove.sound hr))
  | @stray r next _ run c cs n hplace hrun hc h _ ih =>
    have hmove := move_of_step h
    obtain ⟨kept, hkept, hcount, hgo⟩ := dropCommas_go_stray cs hrun hc
    have hnext : next.phase.place = .outside := by
      rw [← hmove.place hr, hplace, next_of_isCloser hc]
    -- Every run has lost a comma, if it had one, so the longest one has.
    have hlongest : max (run.count ',') n - 1 = max (kept.count ',') (n - 1) := by
      omega
    have hrest := ih (hmove.sound hr)
    rw [hnext] at hrest
    rw [hplace, hgo, hlongest]
    exact .stray hplace hkept hc h hrest

/--
A round leaves the text of an object as it is, but for some blanks and for one comma of each run.
-/
theorem Lenient.round (h : Lenient limit start cs r' n) (hfinish : r'.finish = some (.object members)) :
    Lenient limit start (round cs) r' (n - 1) := by
  have hsound := h.sound sound_start
  have hdone := eq_done_of_finish hsound hfinish
  rcases h.exists_last sound_start hdone with ⟨hstart, -⟩ | ⟨front, blanks, rfl, hblanks, hfront⟩
  . rw [← hstart] at hfinish
    contradiction
  . have hend : Place.after .outside (front ++ ['}']) = .outside := by
      have := hfront.place sound_start
      rwa [hdone] at this
    have hstrip : stripFences (front ++ '}' :: blanks) = Text.trimStart (Text.lineFeeds (front ++ ['}'])) :=
      stripFences_of_tidy rfl (fun d hd => isBlank_of_isSpace (hblanks d hd)) (hfront.tidy sound_start) hend
    have htext := hfront.lineFeeds sound_start
    have hhead := htext.head?_trimStart (progress_of_finish hsound hfinish)
    have hextract := extract_braced hhead List.not_mem_nil
    have hdrop : Lenient limit start (dropCommas (Text.trimStart (Text.lineFeeds (front ++ ['}'])))) r' (n - 1) :=
      htext.trimStart.dropCommas_go sound_start
    have hnesting := hdrop.nesting sound_start
    rw [nesting_of_finish hsound hfinish] at hnesting
    unfold Repair.round
    rwa [hstrip, hextract, balance_of_after hnesting]

theorem Lenient.not_all_isBlank (h : Lenient limit start cs r' n) (hfinish : r'.finish = some (.object members)) :
    cs.all isBlank = false := by
  have hhead := h.head?_trimStart (progress_of_finish (h.sound sound_start) hfinish)
  rw [Bool.eq_false_iff]
  intro hblank
  rw [trimStart_of_blank (List.all_eq_true.mp hblank)] at hhead
  contradiction

theorem Lenient.isJson_iff (h : Lenient depthLimit start cs r' n) (hfinish : r'.finish = some (.object members)) :
    isJson cs = true ↔ n = 0 := by
  unfold isJson readWithin
  constructor
  . intro hjson
    obtain ⟨v, hv⟩ := Option.isSome_iff_exists.mp hjson
    obtain ⟨last, hrun, -⟩ := Option.bind_eq_some_iff.mp hv
    exact h.eq_zero sound_start hrun
  . rintro rfl
    rw [h.run_eq sound_start, Option.bind_some, hfinish]
    rfl

/--
The rounds find JSON if there are as many of them as the longest run has commas, and then it is the object.
-/
theorem Lenient.search (m : Nat) (h : Lenient depthLimit start cs r' (n + 1))
    (hfinish : r'.finish = some (.object members)) :
    ((∃ found, search m cs = some found) ↔ n + 1 ≤ m) ∧
      ∀ found, search m cs = some found → readWithin depthLimit found = some (.object members) := by
  induction m generalizing cs n with
  | zero => simp [Repair.search]
  | succ m ih =>
    have hround : Lenient depthLimit start (Repair.round cs) r' n := h.round hfinish
    rw [search_succ]
    cases n with
    | zero =>
      rw [if_pos ((hround.isJson_iff hfinish).mpr rfl)]
      refine ⟨by simp, ?_⟩
      rintro found ⟨⟩
      unfold readWithin
      rw [hround.run_eq sound_start, Option.bind_some, hfinish]
    | succ n =>
      rw [if_neg fun hjson => Nat.succ_ne_zero n ((hround.isJson_iff hfinish).mp hjson), Nat.add_le_add_iff_right]
      exact ih hround

end Reader
end Json
end Triage
