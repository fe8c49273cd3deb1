import Mathlib.Data.List.DropRight
import Enrolment.Proofs.Text.Blank
import Enrolment.Settings
import Enrolment.Url.Parse

/-!
Paths of URLs that go on behind a slash: the steps in front of it are carried out, and what follows
stands behind what they lead to. Paths that go on with blanks or control characters: these are
written as escapes and make a segment that is no step.
-/

namespace Enrolment

section LastSlashes

variable {cs : List Char}

theorem withoutLastSlashes_nil : withoutLastSlashes [] = [] := rfl

theorem withoutLastSlashes_concat_slash (cs : List Char) :
    withoutLastSlashes (cs ++ ['/']) = withoutLastSlashes cs :=
  List.rdropWhile_concat_pos (· = '/') cs '/' (by decide)

theorem withoutLastSlashes_append_slashes (cs : List Char) (count : Nat) :
    withoutLastSlashes (cs ++ List.replicate count '/') = withoutLastSlashes cs := by
  induction count with
  | zero => simp
  | succ count ih =>
      rw [List.replicate_succ', ← List.append_assoc, withoutLastSlashes_concat_slash, ih]

theorem withoutLastSlashes_eq_self_iff : withoutLastSlashes cs = cs ↔ cs.getLast? ≠ some '/' := by
  cases cs using List.reverseRecOn with
  | nil => simp [withoutLastSlashes_nil]
  | append_singleton cs c =>
      rw [show withoutLastSlashes (cs ++ [c]) = (cs ++ [c]).rdropWhile (· = '/') from rfl,
        List.rdropWhile_eq_self_iff]
      simp

theorem length_withoutLastSlashes_le (cs : List Char) :
    (withoutLastSlashes cs).length ≤ cs.length :=
  (List.rdropWhile_prefix (· = '/') (l := cs)).length_le

/-- A text is what is left without the slashes at its end, and so many slashes. -/
theorem exists_eq_append_slashes (cs : List Char) :
    ∃ count, cs = withoutLastSlashes cs ++ List.replicate count '/' := by
  refine ⟨(cs.rtakeWhile (· = '/')).length, ?_⟩
  have hslashes : cs.rtakeWhile (· = '/') = List.replicate (cs.rtakeWhile (· = '/')).length '/' :=
    List.eq_replicate_iff.mpr ⟨rfl, fun c mem => by simpa using List.mem_rtakeWhile_imp mem⟩
  rw [← hslashes]
  exact List.rdropWhile_append_rtakeWhile.symm

end LastSlashes

namespace Text

theorem splitOn_ne_nil (separator : Char) (cs : List Char) : splitOn separator cs ≠ [] := by
  cases cs with
  | nil => simp [splitOn]
  | cons c cs =>
      rw [splitOn]
      split_ifs
      · simp
      · split <;> simp

theorem splitOn_append (separator : Char) (cs rest : List Char) :
    splitOn separator (cs ++ separator :: rest) =
      splitOn separator cs ++ splitOn separator rest := by
  induction cs with
  | nil => simp [splitOn]
  | cons c cs ih =>
      by_cases heq : c = separator
      · simp [splitOn, heq, ih]
      · cases hparts : splitOn separator cs with
        | nil => exact absurd hparts (splitOn_ne_nil separator cs)
        | cons part parts => simp [splitOn, heq, ih, hparts]

/-- A text without the separator only makes the last part longer. -/
theorem exists_last_part {separator : Char} {rest : List Char} (hrest : separator ∉ rest)
    (cs : List Char) : ∃ front last, splitOn separator cs = front ++ [last] ∧
      splitOn separator (cs ++ rest) = front ++ [last ++ rest] := by
  induction cs with
  | nil =>
      refine ⟨[], [], rfl, ?_⟩
      induction rest with
      | nil => rfl
      | cons c rest ih =>
          have hne : c ≠ separator := fun heq => hrest (by simp [heq])
          have htail := ih fun hmem => hrest (List.mem_cons_of_mem _ hmem)
          simp only [List.nil_append] at htail ⊢
          simp [splitOn, hne, htail]
  | cons c cs ih =>
      obtain ⟨front, last, hcs, happend⟩ := ih
      rw [List.cons_append, splitOn, splitOn, hcs, happend]
      split_ifs
      · exact ⟨[] :: front, last, rfl, rfl⟩
      · cases front with
        | nil => exact ⟨[], c :: last, rfl, rfl⟩
        | cons part front => exact ⟨(c :: part) :: front, last, rfl, rfl⟩

end Text

namespace Url

theorem escape_append (escaped : Char → Bool) (cs rest : List Char) :
    escape escaped (cs ++ rest) = escape escaped cs ++ escape escaped rest := by
  simp [escape]

theorem segments_append (special : Bool) (cs rest : List Char) :
    segments special (cs ++ '/' :: rest) = segments special cs ++ segments special rest := by
  cases special <;> simp [segments, Text.splitOn_append]

/-- One segment of a path carried out where another one follows. -/
def step (done : List (List Char)) (segment : List Char) : List (List Char) :=
  if isUp segment then done.dropLast
  else if isHere segment then done
  else done ++ [segment]

def written (segments : List (List Char)) : List Char :=
  segments.flatMap ('/' :: ·)

theorem written_append (front back : List (List Char)) :
    written (front ++ back) = written front ++ written back := by
  simp [written]

theorem written_empty : written [[]] = ['/'] := rfl

theorem walk_append {back : List (List Char)} (hne : back ≠ []) (done front : List (List Char)) :
    walk done (front ++ back) = walk (front.foldl step done) back := by
  induction front generalizing done with
  | nil => rfl
  | cons segment front ih =>
      have hmore : front ++ back ≠ [] := by simp [hne]
      simp only [List.cons_append, List.foldl_cons, ← ih, walk, step]
      split_ifs <;> simp_all

theorem walk_plain {segments : List (List Char)}
    (hplain : ∀ segment ∈ segments, isUp segment = false ∧ isHere segment = false)
    (done : List (List Char)) : walk done segments = done ++ segments := by
  induction segments generalizing done with
  | nil => simp [walk]
  | cons segment segments ih =>
      have hfirst := hplain segment List.mem_cons_self
      simp [walk, hfirst, ih fun segment mem => hplain segment (List.mem_cons_of_mem _ mem)]

/-- A step at the end of a path only adds a slash to what it leads to. -/
theorem withoutLastSlashes_written_walk (done segments : List (List Char)) :
    withoutLastSlashes (written (walk done segments)) =
      withoutLastSlashes (written (segments.foldl step done)) := by
  cases segments using List.reverseRecOn with
  | nil => rfl
  | append_singleton front last =>
      rw [walk_append (by simp), List.foldl_append, List.foldl_cons, List.foldl_nil]
      simp only [walk, step]
      split_ifs <;>
        simp [written_append, written_empty, withoutLastSlashes_concat_slash]

/-- What the steps of a path lead to where a slash follows it. -/
def stem : List Char → List Char
  | [] => []
  | _ :: cs => written ((segments true (escape isPathEscaped cs)).foldl step [])

/-- In the schemes that name hosts a path that is not empty starts with a slash. -/
def Started (path : List Char) : Prop :=
  ∀ c, path.head? = some c → isSlash true c = true

section Started

variable {path : List Char}

theorem pathAfter_append (hstarted : Started path) {rest : List Char}
    (hplain : ∀ segment ∈ segments true (escape isPathEscaped rest),
      isUp segment = false ∧ isHere segment = false) :
    pathAfter true (path ++ '/' :: rest) =
      stem path ++ written (segments true (escape isPathEscaped rest)) := by
  cases path with
  | nil =>
      have hslash : isSlash true '/' = true := rfl
      simp only [List.nil_append, pathAfter, hslash, if_true, pathText]
      exact congrArg written (walk_plain hplain [])
  | cons c cs =>
      have hslash : isSlash true c = true := hstarted c rfl
      have hkept : escape isPathEscaped ('/' :: rest) = '/' :: escape isPathEscaped rest := rfl
      have hne : segments true (escape isPathEscaped rest) ≠ [] := Text.splitOn_ne_nil _ _
      simp only [List.cons_append, pathAfter, hslash, if_true, pathText, stem, escape_append, hkept,
        segments_append]
      rw [walk_append hne, walk_plain hplain]
      exact written_append _ _

theorem stem_append_slash (path : List Char) : stem (path ++ ['/']) = stem path ++ ['/'] := by
  cases path with
  | nil => rfl
  | cons c cs =>
      have hkept : escape isPathEscaped ['/'] = '/' :: [] := rfl
      have hempty : segments true [] = [[]] := rfl
      simp only [List.cons_append, stem, escape_append, hkept, segments_append, hempty,
        List.foldl_append, List.foldl_cons, List.foldl_nil]
      exact written_append _ [[]]

theorem stem_append_slashes (path : List Char) (count : Nat) :
    stem (path ++ List.replicate count '/') = stem path ++ List.replicate count '/' := by
  induction count with
  | zero => simp
  | succ count ih =>
      rw [List.replicate_succ', ← List.append_assoc, stem_append_slash, ih, List.append_assoc]

theorem withoutLastSlashes_pathAfter (hstarted : Started path) :
    withoutLastSlashes (pathAfter true path) = withoutLastSlashes (stem path) := by
  cases path with
  | nil => rfl
  | cons c cs =>
      have hslash : isSlash true c = true := hstarted c rfl
      simp only [pathAfter, hslash, if_true, stem]
      exact withoutLastSlashes_written_walk [] _

theorem Started.append_slashes (hstarted : Started path) (count : Nat) :
    Started (path ++ List.replicate count '/') := by
  cases path with
  | nil =>
      intro c hhead
      have hslash : c = '/' := List.eq_of_mem_replicate (List.mem_of_mem_head? hhead)
      simp [hslash, isSlash]
  | cons c cs => exact hstarted

/-- Slashes at the end of a path make no difference where they are left out. -/
theorem withoutLastSlashes_pathAfter_append_slashes (hstarted : Started path) (count : Nat) :
    withoutLastSlashes (pathAfter true (path ++ List.replicate count '/')) =
      withoutLastSlashes (stem path) := by
  rw [withoutLastSlashes_pathAfter (hstarted.append_slashes count), stem_append_slashes,
    withoutLastSlashes_append_slashes]

end Started

section Blank

/-- The names of the steps of a path. -/
def stepNames : List String :=
  ["..", ".%2e", "%2e.", "%2e%2e", ".", "%2e"]

theorem exists_stepName {segment : List Char} (h : isUp segment = true ∨ isHere segment = true) :
    ∃ name ∈ stepNames, segment.map Char.toLower = name.toList := by
  refine ⟨String.ofList (segment.map Char.toLower), ?_, by rw [String.toList_ofList]⟩
  simp only [isUp, isHere, List.contains_iff_mem] at h
  exact (List.mem_append (s := ["..", ".%2e", "%2e.", "%2e%2e"])).2 h

theorem length_written_concat (done : List (List Char)) (segment : List Char) :
    (written (done ++ [segment])).length = (written done).length + (segment.length + 1) := by
  simp [written]

theorem length_written_step_le (done : List (List Char)) (segment : List Char) :
    (written (step done segment)).length ≤ (written (done ++ [segment])).length := by
  rw [step, length_written_concat]
  split_ifs
  · obtain ⟨last, hdone⟩ := List.dropLast_prefix done
    conv_rhs => rw [← hdone, written_append, List.length_append]
    omega
  · omega
  · rw [length_written_concat]

variable {blanks : List Char} (hblanks : ∀ c ∈ blanks, c ≤ ' ')
include hblanks

theorem not_slash_of_mem_escape {d : Char} (hd : d ∈ escape isPathEscaped blanks) :
    d ≠ '/' ∧ d ≠ '\\' := by
  obtain ⟨c, hc, hd⟩ := List.mem_flatMap.1 hd
  have hall := Text.forall_low
    (P := fun c => (escape isPathEscaped [c]).all (fun d => d ≠ '/' && d ≠ '\\') = true)
    (by decide) (hblanks c hc)
  have hnot := List.all_eq_true.1 hall d (by simpa [escape] using hd)
  simpa using hnot

/-- The escape of a blank is not the end of the name of a step. -/
theorem not_step_append_escape (hne : blanks ≠ []) (cs : List Char) :
    isUp (cs ++ escape isPathEscaped blanks) = false ∧
      isHere (cs ++ escape isPathEscaped blanks) = false := by
  obtain ⟨front, c, rfl⟩ := (List.eq_nil_or_concat' blanks).resolve_left hne
  have hend := Text.forall_low (P := fun c => ∀ name ∈ stepNames,
    ¬(escape isPathEscaped [c]).map Char.toLower <:+ name.toList) (by decide +kernel)
    (hblanks c (by simp))
  by_contra hstep
  obtain ⟨name, hname, heq⟩ := exists_stepName (by
    rw [← Bool.not_eq_true, ← Bool.not_eq_true, ← not_or, not_not] at hstep
    exact hstep)
  refine hend name hname ⟨(cs ++ escape isPathEscaped front).map Char.toLower, ?_⟩
  rw [← heq, escape_append, ← List.append_assoc, ← List.map_append]

/-- Blanks behind a path only make its last segment longer. -/
theorem exists_last_segment (cs : List Char) :
    ∃ front last, segments true (escape isPathEscaped cs) = front ++ [last] ∧
      segments true (escape isPathEscaped (cs ++ blanks)) =
        front ++ [last ++ escape isPathEscaped blanks] := by
  have hforward : (escape isPathEscaped blanks).map (fun c => if c = '\\' then '/' else c) =
      escape isPathEscaped blanks := by
    refine (List.map_congr_left fun c hc => ?_).trans (List.map_id _)
    rw [if_neg (not_slash_of_mem_escape hblanks hc).2, id]
  have hslash : '/' ∉ escape isPathEscaped blanks :=
    fun hmem => (not_slash_of_mem_escape hblanks hmem).1 rfl
  simp only [segments, if_true, escape_append, List.map_append, hforward]
  exact Text.exists_last_part hslash _

/-- A path is longer where blanks stand behind it. -/
theorem length_stem_lt (hne : blanks ≠ []) {path : List Char} (hpath : path ≠ []) :
    (stem path).length < (stem (path ++ blanks)).length := by
  obtain ⟨first, cs, rfl⟩ := List.exists_cons_of_ne_nil hpath
  obtain ⟨front, last, hcs, happend⟩ := exists_last_segment hblanks cs
  obtain ⟨hup, hhere⟩ := not_step_append_escape hblanks hne last
  have hlonger : 0 < (escape isPathEscaped blanks).length := by
    -- With nothing behind it a dot would be a step.
    refine List.length_pos_iff.2 fun hempty => ?_
    have hdot := (not_step_append_escape hblanks hne ['.']).2
    rw [hempty] at hdot
    exact absurd hdot (by decide)
  rw [List.cons_append, stem, stem, hcs, happend, List.foldl_append, List.foldl_append]
  generalize front.foldl step [] = done
  have hkept : step done (last ++ escape isPathEscaped blanks) =
      done ++ [last ++ escape isPathEscaped blanks] := by
    simp [step, hup, hhere]
  calc (written (step done last)).length
      ≤ (written (done ++ [last])).length := length_written_step_le done last
    _ < (written (done ++ [last ++ escape isPathEscaped blanks])).length := by
        rw [length_written_concat, length_written_concat, List.length_append]
        omega
    _ = (written (step done (last ++ escape isPathEscaped blanks))).length := by rw [hkept]

end Blank
end Url
end Enrolment
