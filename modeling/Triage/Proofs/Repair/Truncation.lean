import Triage.Proofs.Json.Continuation
import Triage.Proofs.Repair.BrokenOff

/-!
This module contains the repair of the text of an object that breaks off. The repair closes what is open at the end of
the part that it has cut out, so members are lost where this part is not the whole text.
-/

namespace Triage
namespace Json
namespace Reader

def members (r : Reader) : List (String × Json) :=
  match r.progress? with
  | some g => g.members
  | none => []

end Reader
end Json

namespace Repair

open Text Json

/--
When the repair of an object that breaks off keeps its complete members. Without a closing brace the whole text is
kept, unless brackets of some array are taken for the whole. Else the text is cut behind the last closing brace, and
what is closed there has to be what the text itself closes.
-/
inductive Lossless (members : List (String × Json)) : List Char → Prop where
  | unbraced {text : List Char} (hbrace : '}' ∉ text) (hbrackets : ¬ ['[', ']'].Sublist text) :
      Lossless members text
  | braced {kept closing rest : List Char} {r r' : Reader} (hlast : kept.getLast? = some '}')
      (hrest : '}' ∉ closing ++ rest) (hkept : Reader.start.run depthLimit kept = some r)
      (hname : r.phase.isName = false) (hclosing : r.ClosedBy closing)
      (hrun : r.run depthLimit closing = some r') (hmembers : r'.members = members) :
      Lossless members (kept ++ (closing ++ rest))

variable {limit : Nat} {text rest : List Char} {r r' : Reader}

theorem members_of_progress {g : Progress} (hg : r.progress? = some g) : r.members = g.members := by
  unfold Reader.members
  rw [hg]

/--
The answer to a text that is no JSON text is the object that one round of repairs makes of it.
-/
theorem parseAnswer_eq_ok_iff {text : String} {m : Json.Object} (hblank : Text.isAllBlank text = false)
    (hjson : isJson text.toList = false) :
    parseAnswer text = .ok m ↔
      ∃ members, readWithin depthLimit (round text.toList) = some (.object members) ∧
        m = Members.sorted (canonicalMembers members) := by
  have hrounds : defaultRounds.toNat = 0 + 1 := rfl
  cases hread : readWithin depthLimit (round text.toList) with
  | none =>
    have hnext : isJson (round text.toList) = false := by
      unfold isJson
      rw [hread]
      rfl
    unfold parseAnswer repairDefault repair
    rw [hblank, hjson, hrounds]
    simp [search, hnext]
  | some v =>
    have hnext : isJson (round text.toList) = true := by
      unfold isJson
      rw [hread]
      rfl
    have hparse : Json.parse? (String.ofList (round text.toList)) = some v.canonical := by
      unfold Json.parse? Json.read?
      rw [String.toList_ofList, hread]
      rfl
    unfold parseAnswer repairDefault repair
    rw [hblank, hjson, hrounds]
    simp only [search, hnext, hparse, Bool.false_eq_true, if_false, if_true]
    cases v with
    | object members => simp [canonical, eq_comm]
    | _ => simp [canonical]

theorem answer_of_readWithin {text : String} {members all : List (String × Json)}
    (hblank : Text.isAllBlank text = false) (hjson : isJson text.toList = false)
    (hread : readWithin depthLimit (round text.toList) = some (.object all)) (hall : members <+: all)
    (hkeys : (all.map Prod.fst).Nodup) :
    ∃ m, parseAnswer text = .ok m ∧ ∀ key v, (key, v) ∈ members → Members.get? key m = some v.canonical := by
  refine ⟨_, (parseAnswer_eq_ok_iff hblank hjson).mpr ⟨all, hread, rfl⟩, ?_⟩
  intro key v hmem
  rw [get?_sorted_canonicalMembers hkeys, Members.get?_of_mem hkeys (hall.mem hmem)]
  rfl

theorem readWithin_round {cs : List Char} (h : Reader.start.run limit (extract (stripFences cs)) = some r) :
    readWithin limit (round cs) = (r.run limit r.nesting.closing).bind Reader.finish := by
  have hnesting := Reader.nesting_after_of_run h Reader.sound_start
  unfold round balance readWithin
  rw [dropCommas_of_run h, show Nesting.start = Reader.start.nesting from rfl, hnesting, Reader.run_append, h]
  rfl

theorem not_object_of_bracket {cs : List Char} {middle : List Char} {members : List (String × Json)}
    (h : extract (stripFences cs) = '[' :: middle) : readWithin limit (round cs) ≠ some (.object members) := by
  intro hread
  unfold round balance readWithin dropCommas at hread
  rw [h, dropCommas.go] at hread
  simp only [Bool.false_and, Bool.false_eq_true, if_false] at hread
  rw [if_neg (by simp), Option.bind_eq_some_iff] at hread
  obtain ⟨r, hrun, hfinish⟩ := hread
  have hprogress := Reader.progress_of_finish (Reader.sound_of_run hrun Reader.sound_start) hfinish
  have hhead := Reader.head?_trimStart_of_progress hrun hprogress
  unfold trimStart at hhead
  rw [List.cons_append, List.dropWhile_cons_of_neg (by decide), List.head?_cons] at hhead
  contradiction

theorem closed_members {g : Progress} {v : Json} {members : List (String × Json)} (hr : r.Sound)
    (hclosed : r.closed? = some v) (hg : r.progress? = some g) (hbefore : g.Before ⟨members, none⟩)
    (hkeys : (members.map Prod.fst).Nodup) :
    ∃ all, v = .object all ∧ g.members <+: all ∧ (all.map Prod.fst).Nodup := by
  have hnodup {part : List (String × Json)} (hpart : part <+: members) : (part.map Prod.fst).Nodup :=
    hkeys.sublist (hpart.sublist.map Prod.fst)
  rcases Reader.closed_of_progress hclosed hg hr with ⟨-, hv⟩ | ⟨key, last, hkey, hv, -⟩
  . exact ⟨g.members, hv, List.prefix_refl _, hnodup hbefore.members⟩
  . refine ⟨g.members ++ [(key, last)], hv, List.prefix_append _ _, ?_⟩
    cases hbefore.key key hkey with
    | inl hsame =>
      rw [← hsame] at hkey
      contradiction
    | inr hvalue =>
      obtain ⟨w, hw⟩ := hvalue
      have := hnodup hw
      simpa using this

theorem behindBrace_of_run {front : List Char} (h : Reader.start.run limit (front ++ ['}']) = some r) :
    r.BehindBrace := by
  obtain ⟨mid, hmid, hend⟩ := Reader.run_concat_eq_some_iff.mp h
  exact (Reader.move_of_step hend).behindBrace (Reader.sound_of_run hmid Reader.sound_start) rfl

theorem BrokenOff.round_of_unbraced {members : List (String × Json)} (h : BrokenOff text rest r)
    (hread : readWithin depthLimit (text ++ rest) = some (.object members)) (hkeys : (members.map Prod.fst).Nodup)
    (hbrace : '}' ∉ text) (hbrackets : ¬ ['[', ']'].Sublist text) :
    ∃ all, readWithin depthLimit (round text) = some (.object all) ∧ r.members <+: all ∧
      (all.map Prod.fst).Nodup := by
  obtain ⟨r₀, hrun, hblank, hplace, hnesting, hstep⟩ := h.before
  obtain ⟨g, hg, hbefore⟩ := h.progress_end hread
  have hclosed : ∃ v, r.closed? = some v := by
    have hphase := h.phase
    obtain ⟨stack, phase⟩ := r
    cases phase with
    | firstItem | afterItem | firstKey | afterMember => exact ⟨_, rfl⟩
    | _ => contradiction
  obtain ⟨v, hclosed⟩ := hclosed
  obtain ⟨all, rfl, hall, hnodup⟩ := closed_members h.sound hclosed hg hbefore hkeys
  refine ⟨all, ?_, ?_, hnodup⟩
  . have hextract := run_trimStart_lineFeeds hrun
    rw [← h.extract_of_unbraced hbrace hbrackets] at hextract
    rw [readWithin_round hextract, hnesting, h.run_closing hstep hclosed]
    rfl
  . rwa [members_of_progress hg]

theorem BrokenOff.readWithin_of_braced {kept cut : List Char} {members : List (String × Json)}
    (h : BrokenOff (kept ++ '}' :: cut) rest r)
    (hread : readWithin depthLimit (kept ++ '}' :: cut ++ rest) = some (.object members)) (hcut : '}' ∉ cut)
    (hkept : Reader.start.run depthLimit (kept ++ ['}']) = some r') :
    (∃ g, r'.progress? = some g ∧ g.Before ⟨members, none⟩) ∧
      readWithin depthLimit (round (kept ++ '}' :: cut)) =
        (r'.run depthLimit r'.nesting.closing).bind Reader.finish := by
  have hsplit : BrokenOff (kept ++ ['}'] ++ cut) rest r := by rwa [← List.append_cons]
  obtain ⟨g, hg, hbefore⟩ := hsplit.progress (by rwa [← List.append_cons]) hkept (behindBrace_of_run hkept).begun
  refine ⟨⟨g, hg, hbefore⟩, ?_⟩
  have hhead := Reader.head?_trimStart_of_progress (run_lineFeeds Reader.sound_start hkept) hg
  have hextract := run_trimStart_lineFeeds hkept
  rw [← h.extract_of_braced hhead hcut] at hextract
  exact readWithin_round hextract

theorem BrokenOff.round_of_braced {kept closing cut : List Char} {r₁ r₂ : Reader} {members : List (String × Json)}
    (h : BrokenOff (kept ++ '}' :: (closing ++ cut)) rest r)
    (hread : readWithin depthLimit (kept ++ '}' :: (closing ++ cut) ++ rest) = some (.object members))
    (hkeys : (members.map Prod.fst).Nodup) (hcut : '}' ∉ closing ++ cut)
    (hkept : Reader.start.run depthLimit (kept ++ ['}']) = some r₁) (hname : r₁.phase.isName = false)
    (hclosing : r₁.ClosedBy closing) (hrun : r₁.run depthLimit closing = some r₂) :
    ∃ all, readWithin depthLimit (round (kept ++ '}' :: (closing ++ cut))) = some (.object all) ∧
      r₂.members <+: all ∧ (all.map Prod.fst).Nodup := by
  have hbehind := behindBrace_of_run hkept
  have hsound := Reader.sound_of_run hkept Reader.sound_start
  have hsound₂ := Reader.sound_of_run hrun hsound
  obtain ⟨-, hround⟩ := h.readWithin_of_braced hread hcut hkept
  obtain ⟨v, hclosed⟩ := hbehind.closed hname
  have hclosed₂ := hclosing.closed hbehind hrun hclosed
  have htext : kept ++ '}' :: (closing ++ cut) = kept ++ ['}'] ++ closing ++ cut := by
    simp
  have hfront : Reader.start.run depthLimit (kept ++ ['}'] ++ closing) = some r₂ := by
    rw [Reader.run_append, hkept]
    exact hrun
  rw [htext] at h hread
  obtain ⟨g₂, hg₂, hbefore⟩ := h.progress hread hfront (Reader.run_begun hrun hbehind.begun)
  obtain ⟨all, rfl, hall, hnodup⟩ := closed_members hsound₂ hclosed₂ hg₂ hbefore hkeys
  refine ⟨all, ?_, ?_, hnodup⟩
  . rw [hround, Reader.run_closing hsound hclosed]
    rfl
  . rwa [members_of_progress hg₂]

theorem eq_of_keys {part members : List (String × Json)} (hpart : part <+: members)
    (hkeys : (members.map Prod.fst).Nodup) (h : ∀ key v, (key, v) ∈ members → key ∈ part.map Prod.fst) :
    members = part := by
  obtain ⟨more, rfl⟩ := hpart
  cases more with
  | nil => rw [List.append_nil]
  | cons m more =>
    obtain ⟨key, v⟩ := m
    have hmem := h key v (by simp)
    rw [List.map_append, List.map_cons, List.nodup_append] at hkeys
    exact absurd rfl (hkeys.2.2 key hmem key List.mem_cons_self)

theorem progress_of_run_afterMember {cs : List Char} {members : List (String × Json)} {m : String × Json}
    (h : Reader.run limit ⟨[], .afterMember (m :: members.reverse)⟩ cs = some r) :
    ∃ g, r.progress? = some g ∧ members ++ [m] <+: g.members := by
  have hprogress : Reader.progress? ⟨[], .afterMember (m :: members.reverse)⟩ = some ⟨members ++ [m], none⟩ := by
    simp [Reader.progress?]
  obtain ⟨g, hg, hbefore⟩ := Reader.run_progress h hprogress
  exact ⟨g, hg, hbefore.members⟩

theorem members_afterMember (m : String × Json) (members : List (String × Json)) :
    Reader.members ⟨[], .afterMember (m :: members.reverse)⟩ = members ++ [m] := by
  simp [Reader.members, Reader.progress?]

/--
A member that breaks off has its whole value only if nothing but strings and arrays is left to be closed.
-/
theorem BrokenOff.closedBy {front cut : List Char} {r₁ : Reader} {g : Progress} {key : String} {v last : Json}
    (h : BrokenOff (front ++ cut) rest r) (hcut : '}' ∉ cut) (hfront : Reader.start.run depthLimit front = some r₁)
    (hbehind : r₁.BehindBrace) (hname : r₁.phase.isName = false) (hg : r₁.progress? = some g) (hkey : g.key = some key)
    (hlast : r₁.braces ≤ 1 → last.weight = r₁.load) (hmembers : r.members = g.members ++ [(key, v)])
    (hv : v.canonical = last.canonical) :
    ∃ closing tail r₂, cut = closing ++ tail ∧ r₁.ClosedBy closing ∧ r₁.run depthLimit closing = some r₂ ∧
      r₂.members = r.members := by
  have hsound := Reader.sound_of_run hfront Reader.sound_start
  obtain ⟨r₀, hrun, hblank, hplace, -⟩ := h.before
  rw [Reader.run_append, hfront, Option.bind_some] at hrun
  have hwhole : r₁.run depthLimit (cut ++ [' ']) = some r :=
    Reader.run_concat_eq_some_iff.mpr ⟨r₀, hrun, hblank⟩
  have hsame : r.progress? ≠ some g := by
    intro hsame
    rw [members_of_progress hsame] at hmembers
    simp at hmembers
  have hvalue {w : Json} {g' : Progress} (hg' : r.progress? = some g') (hw : g.members ++ [(key, w)] <+: g'.members) :
      g.members ++ [(key, w)] = r.members := by
    rw [← members_of_progress hg', hmembers] at hw
    rw [hmembers]
    exact hw.eq_of_length (by simp)
  obtain ⟨members, _⟩ := g
  dsimp only at hkey
  subst hkey
  by_cases hbraces : r₁.braces ≤ 1
  . -- Closed where it broke off, the value has the weight that it had there, so it cannot have gained any.
    cases hbehind.continues hname hrun hcut hg hbraces with
    | closed front' tail w hsplit hfront' hclosing =>
      have hrest : Reader.run depthLimit ⟨[], .afterMember ((key, w) :: members.reverse)⟩ (tail ++ [' ']) = some r := by
        rw [hsplit, List.append_assoc, Reader.run_append, hclosing] at hwhole
        exact hwhole
      obtain ⟨g', hg', hpart⟩ := progress_of_run_afterMember hrest
      refine ⟨r₁.quote ++ front', tail, _, hsplit, .inr ⟨front', rfl, hfront'⟩, hclosing, ?_⟩
      rw [members_afterMember]
      exact hvalue hg' hpart
    | incomplete hg₀ hphase =>
      rw [Reader.step_of_isSpace rfl (hphase hplace)] at hblank
      cases hblank
      exact absurd hg₀ hsame
    | more hmore =>
      cases (Reader.move_of_step hblank).outweighs (Reader.sound_of_run hrun hsound) (by decide) hmore with
      | inner hg' => exact absurd hg' hsame
      | begun hg' => exact absurd hg' hsame
      | @complete g' w hg' hpart hweight =>
        have hw := hvalue hg' hpart
        rw [hmembers] at hw
        obtain rfl : w = v := by simpa using hw
        rw [← hlast hbraces, ← weight_canonical w, hv, weight_canonical] at hweight
        exact absurd hweight (Nat.lt_irrefl _)
  . -- No closing brace follows, so the object inside the value stays open and the member incomplete.
    have hcut' : '}' ∉ cut ++ [' '] := by
      rw [List.mem_append, not_or]
      exact ⟨hcut, by decide⟩
    exact absurd (Reader.run_inner hwhole hsound hcut' hg (by omega)) hsame

theorem mem_of_answer {all : List (String × Json)} {key : String} {v : Json} (hnodup : (all.map Prod.fst).Nodup)
    (h : Members.get? key (Members.sorted (canonicalMembers all)) = some v.canonical) :
    ∃ w, (key, w) ∈ all ∧ w.canonical = v.canonical := by
  rw [get?_sorted_canonicalMembers hnodup, Option.map_eq_some_iff] at h
  obtain ⟨w, hw, hcanonical⟩ := h
  exact ⟨w, Members.mem_of_get? hw, hcanonical⟩

theorem BrokenOff.closing_of_answer {front cut : List Char} {r₁ : Reader} {g g' : Progress}
    {all : List (String × Json)} (h : BrokenOff (front ++ cut) rest r) (hcut : '}' ∉ cut)
    (hfront : Reader.start.run depthLimit front = some r₁) (hbehind : r₁.BehindBrace)
    (hname : r₁.phase.isName = false) (hclosed : r₁.closed? = some (.object all)) (hg : r₁.progress? = some g)
    (hg' : r.progress? = some g') (hbefore : g.Before g') (hkeys : (r.members.map Prod.fst).Nodup)
    (hnodup : (all.map Prod.fst).Nodup)
    (hall : ∀ key v, (key, v) ∈ r.members → ∃ w, (key, w) ∈ all ∧ w.canonical = v.canonical) :
    ∃ closing tail r₂, cut = closing ++ tail ∧ r₁.ClosedBy closing ∧ r₁.run depthLimit closing = some r₂ ∧
      r₂.members = r.members := by
  have hmembers := members_of_progress hg'
  have hnames {key : String} {v : Json} (hmem : (key, v) ∈ r.members) : key ∈ all.map Prod.fst := by
    obtain ⟨w, hw, -⟩ := hall key v hmem
    exact List.mem_map.mpr ⟨_, hw, rfl⟩
  have hself (hsame : r.members = g.members) : ∃ closing tail r₂, cut = closing ++ tail ∧ r₁.ClosedBy closing ∧
      r₁.run depthLimit closing = some r₂ ∧ r₂.members = r.members :=
    ⟨[], cut, r₁, rfl, .inl rfl, rfl, (members_of_progress hg).trans hsame.symm⟩
  rcases Reader.closed_of_progress hclosed hg (Reader.sound_of_run hfront Reader.sound_start) with
    ⟨-, hobject⟩ | ⟨key, last, hkey, hobject, hlast⟩
  . cases hobject
    apply hself
    rw [hmembers] at hkeys hnames ⊢
    exact eq_of_keys hbefore.members hkeys fun _ _ => hnames
  . cases hobject
    cases hbefore.key key hkey with
    | inl hsame => exact hself (by rw [hmembers, hsame])
    | inr hlonger =>
      obtain ⟨v, hlonger⟩ := hlonger
      rw [← hmembers] at hlonger
      have hcomplete : r.members = g.members ++ [(key, v)] :=
        eq_of_keys hlonger hkeys fun _ _ hmem => by simpa using hnames hmem
      obtain ⟨w, hw, hcanonical⟩ := hall key v (by simp [hcomplete])
      have hsame : w = last := by
        have hmem : (key, last) ∈ g.members ++ [(key, last)] := by simp
        have hget := Members.get?_of_mem hnodup hmem
        rw [Members.get?_of_mem hnodup hw] at hget
        exact Option.some.inj hget
      rw [hsame] at hcanonical
      exact h.closedBy hcut hfront hbehind hname hg hkey hlast hcomplete hcanonical.symm

theorem BrokenOff.lossless_of_braced {kept cut : List Char} {all members : List (String × Json)}
    (h : BrokenOff (kept ++ '}' :: cut) rest r) (hcut : '}' ∉ cut)
    (hread : readWithin depthLimit (kept ++ '}' :: cut ++ rest) = some (.object members))
    (hkeys : (members.map Prod.fst).Nodup)
    (hround : readWithin depthLimit (round (kept ++ '}' :: cut)) = some (.object all))
    (hall : ∀ key v, (key, v) ∈ r.members →
      Members.get? key (Members.sorted (canonicalMembers all)) = some v.canonical) :
    Lossless r.members (kept ++ '}' :: cut) := by
  have hwhole := h.run
  rw [List.append_cons kept, List.append_assoc] at hwhole
  obtain ⟨r₁, hkept, hrest⟩ := Reader.run_append_eq_some_iff.mp hwhole
  have hbehind := behindBrace_of_run hkept
  have hsound := Reader.sound_of_run hkept Reader.sound_start
  obtain ⟨⟨g, hg, hbefore⟩, hcompleted⟩ := h.readWithin_of_braced hread hcut hkept
  rw [hcompleted] at hround
  obtain ⟨hname, hclosed⟩ := hbehind.of_run_closing hsound hround
  obtain ⟨all', hobject, -, hnodup⟩ := closed_members hsound hclosed hg hbefore hkeys
  cases hobject
  obtain ⟨g', hg', hmore⟩ := Reader.run_progress hrest hg
  obtain ⟨g'', hg'', hpart⟩ := h.progress_end hread
  rw [hg'] at hg''
  cases hg''
  have hcomplete : (r.members.map Prod.fst).Nodup := by
    rw [members_of_progress hg']
    exact hkeys.sublist (hpart.members.sublist.map Prod.fst)
  rw [List.append_cons] at h ⊢
  obtain ⟨closing, tail, r₂, rfl, hclosing, hrun, hmembers⟩ :=
    h.closing_of_answer hcut hkept hbehind hname hclosed hg hg' hmore hcomplete hnodup fun key v hmem =>
      mem_of_answer hnodup (hall key v hmem)
  exact .braced (by simp) hcut hkept hname hclosing hrun hmembers

theorem BrokenOff.lossless {all members : List (String × Json)} (h : BrokenOff text rest r)
    (hread : readWithin depthLimit (text ++ rest) = some (.object members)) (hkeys : (members.map Prod.fst).Nodup)
    (hround : readWithin depthLimit (round text) = some (.object all))
    (hall : ∀ key v, (key, v) ∈ r.members →
      Members.get? key (Members.sorted (canonicalMembers all)) = some v.canonical) :
    Lossless r.members text := by
  by_cases hbrace : '}' ∈ text
  . obtain ⟨kept, cut, rfl, hcut⟩ := eq_append_cons_last hbrace
    exact h.lossless_of_braced hcut hread hkeys hround hall
  . by_cases hbrackets : ['[', ']'].Sublist text
    . -- An array is taken for the whole, so the answer is no object.
      obtain ⟨middle, hmiddle⟩ := h.extract_of_brackets hbrace hbrackets
      exact absurd hround (not_object_of_bracket hmiddle)
    . exact .unbraced hbrace hbrackets

end Repair

open Repair

/--
The answer to the text of an object that breaks off has the complete members with their values exactly if nothing is cut
off that is needed for them.
-/
theorem parseAnswer_of_brokenOff {text rest : String} {members : List (String × Json)} {r : Json.Reader}
    (hread : Json.read? (text ++ rest) = some (.object members)) (hkeys : (members.map Prod.fst).Nodup)
    (hbroken : BrokenOff text.toList rest.toList r) :
    r.members <+: members ∧
      ((∃ m, parseAnswer text = .ok m ∧ ∀ key v, (key, v) ∈ r.members → Members.get? key m = some v.canonical) ↔
        Lossless r.members text.toList) := by
  unfold Json.read? at hread
  rw [String.toList_append] at hread
  obtain ⟨g, hg, hbefore⟩ := hbroken.progress_end hread
  refine ⟨?_, ?_, ?_⟩
  . rw [members_of_progress hg]
    exact hbefore.members
  . rintro ⟨m, hm, hall⟩
    obtain ⟨all, hround, rfl⟩ := (parseAnswer_eq_ok_iff hbroken.not_isAllBlank hbroken.not_isJson).mp hm
    exact hbroken.lossless hread hkeys hround hall
  . intro hlossless
    have hround : ∃ all, Json.readWithin Json.depthLimit (round text.toList) = some (.object all) ∧
        r.members <+: all ∧ (all.map Prod.fst).Nodup := by
      generalize text.toList = cs at *
      cases hlossless with
      | unbraced hbrace hbrackets => exact hbroken.round_of_unbraced hread hkeys hbrace hbrackets
      | braced hlast hcut hkept hname hclosing hrun hmembers =>
        obtain ⟨kept, rfl⟩ := List.getLast?_eq_some_iff.mp hlast
        rw [← List.append_cons] at hbroken hread ⊢
        rw [← hmembers]
        exact hbroken.round_of_braced hread hkeys hcut hkept hname hclosing hrun
    obtain ⟨all, hround, hpart, hnodup⟩ := hround
    exact answer_of_readWithin hbroken.not_isAllBlank hbroken.not_isJson hround hpart hnodup

theorem parseAnswer_of_brokenOff_object :
    ∃ m, parseAnswer "\x7b\"a\":[null],\"b\":\x7b\"c\":true\x7d" = .ok m ∧
      Members.get? "a" m = some (.array [.null]) ∧ Members.get? "b" m = some (.object [("c", .bool true)]) := by
  have hbroken : BrokenOff "\x7b\"a\":[null],\"b\":\x7b\"c\":true\x7d".toList "\x7d".toList
      ⟨[], .afterMember [("b", .object [("c", .bool true)]), ("a", .array [.null])]⟩ :=
    ⟨rfl, rfl, ⟨'}', rfl, rfl⟩, rfl⟩
  have hread : Json.read? ("\x7b\"a\":[null],\"b\":\x7b\"c\":true\x7d" ++ "\x7d") =
      some (.object [("a", .array [.null]), ("b", .object [("c", .bool true)])]) := by
    decide +kernel
  have hlossless : Lossless [("a", .array [.null]), ("b", .object [("c", .bool true)])]
      ("\x7b\"a\":[null],\"b\":\x7b\"c\":true\x7d".toList ++ ([] ++ [])) :=
    .braced (r := ⟨[], .afterMember [("b", .object [("c", .bool true)]), ("a", .array [.null])]⟩) rfl (by simp) rfl
      rfl (.inl rfl) rfl rfl
  obtain ⟨m, hm, hall⟩ := (parseAnswer_of_brokenOff hread (by decide) hbroken).2.mpr hlossless
  exact ⟨m, hm, hall "a" (.array [.null]) (.head _), hall "b" (.object [("c", .bool true)]) (.tail _ (.head _))⟩

/--
A member behind the last closing brace is cut off, though it is complete.
-/
theorem parseAnswer_loses_member :
    ¬ ∀ (text rest : String) (members : List (String × Json)) (r : Json.Reader),
      Json.read? (text ++ rest) = some (.object members) → (members.map Prod.fst).Nodup →
      BrokenOff text.toList rest.toList r →
      ∃ m, parseAnswer text = .ok m ∧ ∀ key v, (key, v) ∈ r.members → Members.get? key m = some v.canonical := by
  intro h
  have hread : Json.read? ("\x7b\"a\":\x7b\"b\":true\x7d,\"c\":[null]" ++ "\x7d") =
      some (.object [("a", .object [("b", .bool true)]), ("c", .array [.null])]) := by
    decide +kernel
  have hbroken : BrokenOff "\x7b\"a\":\x7b\"b\":true\x7d,\"c\":[null]".toList "\x7d".toList
      ⟨[], .afterMember [("c", .array [.null]), ("a", .object [("b", .bool true)])]⟩ :=
    ⟨rfl, rfl, ⟨']', rfl, rfl⟩, rfl⟩
  have hlost : (parseAnswer "\x7b\"a\":\x7b\"b\":true\x7d,\"c\":[null]").toOption.bind (Members.get? "c") =
      none := by
    decide +kernel
  obtain ⟨m, hm, hall⟩ := h _ _ _ _ hread (by decide) hbroken
  rw [hm] at hlost
  have hkept : Members.get? "c" m = some (.array [.null]) := hall "c" (.array [.null]) (.tail _ (.head _))
  rw [Except.toOption, Option.bind_some, hkept] at hlost
  exact Option.some_ne_none _ hlost

end Triage
