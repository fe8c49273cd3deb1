import Mathlib.Data.List.TakeDrop
import Enrolment.Proofs.Url.Authority
import Enrolment.Settings.Check

/-!
How the text of a URL of the web is laid out: the name of its scheme, slashes, a place and a path.
An accepted base URL is of this form, and stays so where its path goes on.
-/

namespace Enrolment
namespace Text

section Cut

variable {separator : Char} {cs front back : List Char}

theorem cutAt_append (hnot : separator ∉ front) (back : List Char) :
    cutAt separator (front ++ separator :: back) = (front, some back) := by
  induction front with
  | nil => simp [cutAt]
  | cons c front ih =>
      have hne : c ≠ separator := fun heq => hnot (by simp [heq])
      simp [cutAt, hne, ih fun hmem => hnot (List.mem_cons_of_mem _ hmem)]

theorem cutAt_of_notMem (hnot : separator ∉ cs) : cutAt separator cs = (cs, none) := by
  induction cs with
  | nil => rfl
  | cons c cs ih =>
      have hne : c ≠ separator := fun heq => hnot (by simp [heq])
      simp [cutAt, hne, ih fun hmem => hnot (List.mem_cons_of_mem _ hmem)]

theorem eq_append_of_cutAt (hcut : cutAt separator cs = (front, some back)) :
    cs = front ++ separator :: back ∧ separator ∉ front := by
  by_cases hmem : separator ∈ cs
  · obtain ⟨before, behind, rfl, hnot⟩ := List.eq_append_cons_of_mem hmem
    rw [cutAt_append hnot] at hcut
    cases hcut
    exact ⟨rfl, hnot⟩
  · simp [cutAt_of_notMem hmem] at hcut

theorem eq_of_cutAt (hcut : cutAt separator cs = (front, none)) : cs = front ∧ separator ∉ cs := by
  by_cases hmem : separator ∈ cs
  · obtain ⟨before, behind, rfl, hnot⟩ := List.eq_append_cons_of_mem hmem
    simp [cutAt_append hnot] at hcut
  · rw [cutAt_of_notMem hmem] at hcut
    cases hcut
    exact ⟨rfl, hmem⟩

end Cut
end Text

namespace Url

/-- Blanks and control characters, which are dropped at the ends of a URL. -/
def isOuter (c : Char) : Bool := c ≤ ' '

/-- Tabs and line breaks, which are dropped everywhere. -/
def isInner (c : Char) : Bool := c = '\t' || c = '\n' || c = '\r'

theorem isOuter_of_isInner {c : Char} (hinner : isInner c = true) : isOuter c = true := by
  simp only [isInner, Bool.or_eq_true, decide_eq_true_eq] at hinner
  rcases hinner with (rfl | rfl) | rfl <;> decide

theorem cleaned_eq (cs : List Char) :
    cleaned cs = ((cs.dropWhile isOuter).rdropWhile isOuter).filter (!isInner ·) := rfl

/-- What is left of a text in front of more text: only the blanks at its start are dropped. -/
def opened (cs : List Char) : List Char :=
  (cs.dropWhile isOuter).filter (!isInner ·)

/-- The characters at the end of a text that are dropped where nothing follows, and kept where
something does. -/
def lost (cs : List Char) : List Char :=
  (cs.rtakeWhile isOuter).filter (!isInner ·)

theorem cleaned_append {more : List Char} (hne : more ≠ [])
    (hplain : ∀ c ∈ more, isOuter c = false) (cs : List Char) :
    cleaned (cs ++ more) = opened cs ++ more := by
  have hkept : ∀ c ∈ more, (!isInner c) = true := by
    intro c hmem
    by_contra hinner
    have houter := isOuter_of_isInner (by simpa using hinner)
    rw [hplain c hmem] at houter
    cases houter
  have hdropped : (cs ++ more).dropWhile isOuter = cs.dropWhile isOuter ++ more := by
    have hwhole : more.dropWhile isOuter = more := by
      cases more with
      | nil => rfl
      | cons c more => simp [hplain c List.mem_cons_self]
    rw [List.dropWhile_append]
    split_ifs with hempty
    · rw [List.isEmpty_iff.mp hempty, hwhole, List.nil_append]
    · rfl
  have hlast : (cs.dropWhile isOuter ++ more).rdropWhile isOuter = cs.dropWhile isOuter ++ more := by
    rw [List.rdropWhile_eq_self_iff]
    intro _
    rw [List.getLast_append_of_ne_nil _ hne]
    simp [hplain _ (List.getLast_mem hne)]
  rw [cleaned_eq, hdropped, hlast, List.filter_append, List.filter_eq_self.mpr hkept, opened]

theorem opened_eq {cs : List Char} (hne : cleaned cs ≠ []) : opened cs = cleaned cs ++ lost cs := by
  have htail : (cs.dropWhile isOuter).rtakeWhile isOuter = cs.rtakeWhile isOuter := by
    have hsome : (cs.dropWhile isOuter).rdropWhile isOuter ≠ [] := by
      intro heq
      exact hne (by rw [cleaned_eq, heq, List.filter_nil])
    have hshort : ((cs.dropWhile isOuter).reverse.takeWhile isOuter).length ≠
        (cs.dropWhile isOuter).reverse.length := by
      intro heq
      have hwhole := (List.takeWhile_prefix isOuter).eq_of_length heq
      have hall := List.takeWhile_eq_self_iff.mp hwhole
      exact hsome (List.rdropWhile_eq_nil_iff.mpr fun c hmem => hall c (by simpa using hmem))
    conv_rhs => rw [← List.takeWhile_append_dropWhile (p := isOuter) (l := cs)]
    rw [List.rtakeWhile, List.rtakeWhile, List.reverse_append, List.takeWhile_append, if_neg hshort]
  calc opened cs
      = ((cs.dropWhile isOuter).rdropWhile isOuter ++
          (cs.dropWhile isOuter).rtakeWhile isOuter).filter (!isInner ·) := by
        rw [List.rdropWhile_append_rtakeWhile, opened]
    _ = cleaned cs ++ lost cs := by rw [htail, List.filter_append, cleaned_eq, lost]

theorem low_of_mem_lost {cs : List Char} {c : Char} (hmem : c ∈ lost cs) : c ≤ ' ' := by
  have houter : isOuter c = true := List.mem_rtakeWhile_imp (List.mem_filter.mp hmem).1
  exact of_decide_eq_true houter

/-- A URL that loses characters at its end does not end in a slash. -/
theorem withoutLastSlashes_of_lost {cs : List Char} (hlost : lost cs ≠ []) :
    withoutLastSlashes cs = cs := by
  refine withoutLastSlashes_eq_self_iff.mpr fun hlast => hlost ?_
  obtain ⟨front, rfl⟩ := List.getLast?_eq_some_iff.mp hlast
  rw [lost, List.rtakeWhile_concat_neg _ _ _ (by decide), List.filter_nil]

/-- A URL without a query, by what stands in front of its path. -/
def webUrl (scheme : String) (path : List Char) (found : Authority) : Url :=
  { scheme
    user := String.ofList found.user
    password := String.ofList found.password
    host := found.host
    port := found.port
    path := String.ofList (pathAfter true path) }

section Web

variable {text : String} {name rest : List Char}

theorem standardPort?_of_web (hweb : String.ofList name = "http" ∨ String.ofList name = "https") :
    (standardPort? (String.ofList name)).isSome = true := by
  rcases hweb with heq | heq <;> rw [heq] <;> rfl

theorem parse_eq_ok_iff_of_scheme? (hfragment : '#' ∉ cleaned text.toList)
    (hquery : '?' ∉ cleaned text.toList) (hread : scheme? (cleaned text.toList) = some (name, rest))
    (hweb : String.ofList name = "http" ∨ String.ofList name = "https") {place path : List Char}
    (hcut : cutAtSlash true (rest.dropWhile (isSlash true)) = (place, path))
    (hslashless : ∀ c ∈ place, isSlash true c = false) {url : Url} :
    Url.parse text = .ok url ↔ ∃ found,
      authority (String.ofList name) true place = .ok found ∧
        url = webUrl (String.ofList name) path found := by
  have hnotFile : String.ofList name ≠ "file" := by
    rcases hweb with heq | heq <;> rw [heq] <;> decide
  have hspecial := standardPort?_of_web hweb
  unfold Url.parse
  rw [Text.cutAt_of_notMem hfragment]
  dsimp only
  rw [Text.cutAt_of_notMem hquery]
  dsimp only
  rw [hread]
  simp only [hspecial, hnotFile, if_true, if_false, Option.map_none, Option.isSome_none,
    Bool.or_false, hcut]
  cases hok : authority (String.ofList name) (decide (path ≠ [])) place with
  | error reason =>
      refine ⟨fun hparsed => (by cases hparsed), ?_⟩
      rintro ⟨found, hagain, -⟩
      rw [authority_followed hspecial hagain] at hok
      cases hok
  | ok found =>
      have hnone := leftover_of_authority hspecial hslashless hok
      rw [authority_followed hspecial hok]
      simp [webUrl, hnone, bind, Except.bind, pure, Except.pure, eq_comm]

theorem baseUrlProblem?_eq_none_iff : baseUrlProblem? text = none ↔
    ∃ url, Url.parse text = .ok url ∧ (url.scheme = "http" ∨ url.scheme = "https") ∧
      url.host ≠ none ∧ url.query = none ∧ url.fragment = none := by
  unfold baseUrlProblem?
  cases Url.parse text with
  | error reason => simp
  | ok url =>
      simp only [Except.ok.injEq, exists_eq_left', Bool.or_eq_true, Option.isSome_iff_ne_none]
      split_ifs <;> simp <;> tauto

theorem exists_scheme?_of_accepted (haccepted : baseUrlProblem? text = none) :
    '#' ∉ cleaned text.toList ∧ '?' ∉ cleaned text.toList ∧ ∃ name rest,
      scheme? (cleaned text.toList) = some (name, rest) ∧
        (String.ofList name = "http" ∨ String.ofList name = "https") := by
  obtain ⟨url, hparsed, hweb, -, hquery, hfragment⟩ := baseUrlProblem?_eq_none_iff.mp haccepted
  unfold Url.parse at hparsed
  cases hcutFragment : Text.cutAt '#' (cleaned text.toList) with
  | mk front fragment =>
  cases hcutQuery : Text.cutAt '?' front with
  | mk body query =>
  simp only [hcutFragment, hcutQuery] at hparsed
  cases hread : scheme? body with
  | none => simp [hread, throw, throwThe, MonadExceptOf.throw] at hparsed
  | some found =>
  obtain ⟨name, rest⟩ := found
  simp only [hread] at hparsed
  have hkept : url.scheme = String.ofList name ∧ url.query.isSome = query.isSome ∧
      url.fragment.isSome = fragment.isSome := by
    split_ifs at hparsed with hfile hspecial
    · cases hplaced : filePlace rest with
      | error reason => simp [hplaced, bind, Except.bind] at hparsed
      | ok found =>
          simp only [hplaced, bind, Except.bind, pure, Except.pure, Except.ok.injEq] at hparsed
          simp [← hparsed]
    · generalize authority (String.ofList name) _ _ = placed at hparsed
      cases placed with
      | error reason => simp [bind, Except.bind] at hparsed
      | ok found =>
          simp only [bind, Except.bind, pure, Except.pure, Except.ok.injEq] at hparsed
          simp [← hparsed]
    · split at hparsed
      · generalize authority (String.ofList name) _ _ = placed at hparsed
        cases placed with
        | error reason => simp [bind, Except.bind] at hparsed
        | ok found =>
            simp only [bind, Except.bind, pure, Except.pure, Except.ok.injEq] at hparsed
            simp [← hparsed]
      · simp only [pure, Except.pure, Except.ok.injEq] at hparsed
        simp [← hparsed]
      · simp only [pure, Except.pure, Except.ok.injEq] at hparsed
        simp [← hparsed]
  obtain ⟨hscheme, hbody, hfront⟩ := hkept
  rw [hquery, Option.isSome_none, eq_comm, Option.isSome_eq_false_iff, Option.isNone_iff_eq_none]
    at hbody
  rw [hfragment, Option.isSome_none, eq_comm, Option.isSome_eq_false_iff,
    Option.isNone_iff_eq_none] at hfront
  subst hbody hfront
  obtain ⟨heq, hhash⟩ := Text.eq_of_cutAt hcutFragment
  obtain ⟨rfl, hmark⟩ := Text.eq_of_cutAt hcutQuery
  rw [heq] at hhash ⊢
  exact ⟨hhash, hmark, name, rest, hread, hscheme ▸ hweb⟩

end Web

theorem exists_name_of_scheme? {cs : List Char} (hread : scheme? cs = some (name, rest)) :
    ∃ raw, cs = raw ++ ':' :: rest ∧
      ∀ more, scheme? (raw ++ ':' :: more) = some (raw.map Char.toLower, more) := by
  rw [scheme?] at hread
  split at hread
  · next c raw rest hcut =>
      split_ifs at hread with hchars
      obtain ⟨heq, hnot⟩ := Text.eq_append_of_cutAt hcut
      cases hread
      exact ⟨c :: raw, heq, fun more => by rw [scheme?, Text.cutAt_append hnot]; simp [hchars]⟩
  · cases hread

/-- The parts of the text of a URL whose scheme names hosts. -/
structure Layout where
  name : List Char
  slashes : List Char
  place : List Char
  path : List Char

namespace Layout

def text (layout : Layout) : List Char :=
  layout.name ++ ':' :: (layout.slashes ++ (layout.place ++ layout.path))

def scheme (layout : Layout) : String :=
  String.ofList (layout.name.map Char.toLower)

/-- That the text of the parts is read as these parts, and is of the web. -/
structure Fits (layout : Layout) : Prop where
  named : ∀ rest, scheme? (layout.name ++ ':' :: rest) = some (layout.name.map Char.toLower, rest)
  web : layout.scheme = "http" ∨ layout.scheme = "https"
  slashes : ∀ c ∈ layout.slashes, isSlash true c = true
  place_ne : layout.place ≠ []
  place : ∀ c ∈ layout.place, isSlash true c = false
  path : Started layout.path
  no_query : '?' ∉ layout.text
  no_fragment : '#' ∉ layout.text

variable {layout : Layout} {text : String}

theorem Fits.special (hfits : layout.Fits) : (standardPort? layout.scheme).isSome = true :=
  standardPort?_of_web hfits.web

theorem Fits.parse_eq_ok_iff (hfits : layout.Fits) (heq : cleaned text.toList = layout.text)
    {url : Url} : Url.parse text = .ok url ↔ ∃ found,
      authority layout.scheme true layout.place = .ok found ∧
        url = webUrl layout.scheme layout.path found := by
  have hdropped : (layout.slashes ++ (layout.place ++ layout.path)).dropWhile (isSlash true) =
      layout.place ++ layout.path := by
    obtain ⟨c, place, heq⟩ := List.exists_cons_of_ne_nil hfits.place_ne
    have hfirst : isSlash true c = false := hfits.place c (by simp [heq])
    rw [List.dropWhile_append_of_pos hfits.slashes, heq, List.cons_append,
      List.dropWhile_cons_of_neg (by simp [hfirst])]
  have hcut : cutAtSlash true (layout.place ++ layout.path) = (layout.place, layout.path) := by
    have hwhole : ∀ c ∈ layout.place, (!isSlash true c) = true := by
      simpa using hfits.place
    have hstop : layout.path.takeWhile (!isSlash true ·) = [] ∧
        layout.path.dropWhile (!isSlash true ·) = layout.path := by
      cases hpath : layout.path with
      | nil => exact ⟨rfl, rfl⟩
      | cons c cs =>
          have hslash : isSlash true c = true := hfits.path c (by simp [hpath])
          simp [hslash]
    rw [cutAtSlash, List.span_eq_takeWhile_dropWhile, List.takeWhile_append_of_pos hwhole,
      List.dropWhile_append_of_pos hwhole, hstop.1, hstop.2, List.append_nil]
  have hfragment := hfits.no_fragment
  have hquery := hfits.no_query
  rw [← heq] at hfragment hquery
  have hread : scheme? (cleaned text.toList) = some (layout.name.map Char.toLower,
      layout.slashes ++ (layout.place ++ layout.path)) := by
    rw [heq]
    exact hfits.named _
  exact parse_eq_ok_iff_of_scheme? hfragment hquery hread hfits.web (by rw [hdropped, hcut])
    hfits.place

/-- The layout of a text whose path goes on. -/
def onward (layout : Layout) (more : List Char) : Layout :=
  { layout with path := layout.path ++ more }

theorem onward_text (layout : Layout) (more : List Char) :
    (layout.onward more).text = layout.text ++ more := by
  simp [onward, text]

theorem Fits.onward (hfits : layout.Fits) {more : List Char}
    (hstarted : Started (layout.path ++ more)) (hquery : '?' ∉ more) (hfragment : '#' ∉ more) :
    (layout.onward more).Fits :=
  { hfits with
    path := hstarted
    no_query := by simp [onward_text, hfits.no_query, hquery]
    no_fragment := by simp [onward_text, hfits.no_fragment, hfragment] }

/-- The layout of a text without a path whose place goes on in front of one. -/
def widened (layout : Layout) (more path : List Char) : Layout :=
  { layout with place := layout.place ++ more, path }

theorem widened_text (hpath : layout.path = []) (more path : List Char) :
    (layout.widened more path).text = layout.text ++ (more ++ path) := by
  simp [widened, text, hpath]

theorem Fits.widened (hfits : layout.Fits) (hpath : layout.path = []) {more path : List Char}
    (hmore : ∀ c ∈ more, isSlash true c = false) (hstarted : Started path)
    (hquery : '?' ∉ more ++ path) (hfragment : '#' ∉ more ++ path) :
    (layout.widened more path).Fits :=
  { hfits with
    place_ne := by simp [Layout.widened, hfits.place_ne]
    place := by
      intro c hmem
      rcases List.mem_append.mp hmem with hmem | hmem
      · exact hfits.place c hmem
      · exact hmore c hmem
    path := hstarted
    no_query := by
      rw [widened_text hpath]
      exact List.not_mem_append hfits.no_query hquery
    no_fragment := by
      rw [widened_text hpath]
      exact List.not_mem_append hfits.no_fragment hfragment }

/-- Slashes at the end of a laid out text belong to its path. -/
theorem Fits.exists_front (hfits : layout.Fits) {front : List Char} {count : Nat}
    (heq : layout.text = front ++ List.replicate count '/') :
    ∃ start : Layout, start.Fits ∧ start.text = front ∧
      layout = start.onward (List.replicate count '/') := by
  have hpath : ∃ path, layout.path = path ++ List.replicate count '/' := by
    have hwhole : (layout.name ++ ':' :: (layout.slashes ++ layout.place)) ++ layout.path =
        front ++ List.replicate count '/' := by
      rw [← heq, text]
      simp
    rcases List.append_eq_append_iff.mp hwhole with ⟨path, -, heq⟩ | ⟨slashes, hsplit, heq⟩
    · exact ⟨path, heq⟩
    · -- The slashes cannot reach into the place, which ends in no slash.
      refine ⟨[], ?_⟩
      have hall : ∀ c ∈ slashes, c = '/' := fun c hmem =>
        List.eq_of_mem_replicate (by rw [heq]; exact List.mem_append_left _ hmem)
      rcases List.eq_nil_or_concat' slashes with rfl | ⟨more, last, rfl⟩
      · simpa using heq.symm
      · have hlast := congrArg List.getLast? hsplit
        rw [← List.append_assoc, List.getLast?_concat, List.getLast?_append, List.getLast?_cons,
          List.getLast?_append, List.getLast?_eq_some_getLast hfits.place_ne] at hlast
        have hslash : layout.place.getLast hfits.place_ne = '/' := by
          have heq : layout.place.getLast hfits.place_ne = last := by simpa using hlast
          rw [heq]
          exact hall last (by simp)
        have hplace := hfits.place _ (List.getLast_mem hfits.place_ne)
        rw [hslash] at hplace
        cases hplace
  obtain ⟨path, hpath⟩ := hpath
  have honward : layout = ({ layout with path } : Layout).onward (List.replicate count '/') := by
    simp [Layout.onward, ← hpath]
  have htext : ({ layout with path } : Layout).text = front := by
    have hwhole := congrArg Layout.text honward
    rw [onward_text, heq] at hwhole
    exact (List.append_cancel_right hwhole).symm
  refine ⟨{ layout with path }, ?_, htext, honward⟩
  exact { hfits with
    path := by
      intro c hhead
      exact hfits.path c (by rw [hpath, List.head?_append, hhead]; rfl)
    no_query := fun hmem => hfits.no_query (by
      rw [heq, ← htext]; exact List.mem_append_left _ hmem)
    no_fragment := fun hmem => hfits.no_fragment (by
      rw [heq, ← htext]; exact List.mem_append_left _ hmem) }

end Layout

/-- An accepted text is laid out as a URL of the web. -/
theorem exists_layout (haccepted : baseUrlProblem? text = none) :
    ∃ layout : Layout, ∃ found, layout.Fits ∧ cleaned text.toList = layout.text ∧
      authority layout.scheme true layout.place = .ok found := by
  obtain ⟨hfragment, hquery, name, rest, hread, hweb⟩ := exists_scheme?_of_accepted haccepted
  obtain ⟨raw, heq, hnamed⟩ := exists_name_of_scheme? hread
  obtain ⟨url, hparsed, -⟩ := baseUrlProblem?_eq_none_iff.mp haccepted
  cases hcut : cutAtSlash true (rest.dropWhile (isSlash true)) with
  | mk place path =>
  have hparts := hcut
  rw [cutAtSlash, List.span_eq_takeWhile_dropWhile, Prod.mk.injEq] at hparts
  have hslashless : ∀ c ∈ place, isSlash true c = false := by
    intro c hmem
    rw [← hparts.1] at hmem
    simpa using List.mem_takeWhile_imp hmem
  obtain ⟨found, hok, -⟩ :=
    (parse_eq_ok_iff_of_scheme? hfragment hquery hread hweb hcut hslashless).mp hparsed
  have hname : name = raw.map Char.toLower := by
    have hagain := hnamed rest
    rw [← heq, hread] at hagain
    exact congrArg Prod.fst (Option.some.inj hagain)
  subst hname
  let layout : Layout := { name := raw, slashes := rest.takeWhile (isSlash true), place, path }
  have hwhole : cleaned text.toList = layout.text := by
    rw [heq]
    simp [layout, Layout.text, ← hparts.1, ← hparts.2]
  refine ⟨layout, found, ?_, hwhole, hok⟩
  exact {
    named := hnamed
    web := hweb
    slashes := fun c hmem => List.mem_takeWhile_imp hmem
    place_ne := ne_nil_of_authority (standardPort?_of_web hweb) hok
    place := hslashless
    path := by
      intro c hhead
      have hstop := List.head?_dropWhile_not (!isSlash true ·) (rest.dropWhile (isSlash true))
      rw [hparts.2, hhead] at hstop
      simpa using hstop
    no_query := hwhole ▸ hquery
    no_fragment := hwhole ▸ hfragment }

end Url
end Enrolment
