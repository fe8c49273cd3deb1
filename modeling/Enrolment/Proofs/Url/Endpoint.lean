import Enrolment.Proofs.Url.Layout

/-!
Which accepted base URLs serve the address that users are created at. The base is accepted as it is
read, without the blanks and control characters at its end, but the path of users is appended to it
as it is written, so that these characters become part of the address. And only slashes at its very
end are left out before that; others that the path of the base ends with, behind a step or written
backward, stay in the address.
-/

namespace Enrolment

/-- That the address at which users are created is that of the base URL, with the path of users
behind its own. -/
structure ProxySettings.Serves (proxy : ProxySettings) : Prop where
  accepted : baseUrlProblem? proxy.endpoint = none
  reached : ∃ url target, Url.parse proxy.baseUrl = .ok url ∧ Url.parse proxy.endpoint = .ok target ∧
    target.scheme = url.scheme ∧ target.host = url.host ∧ target.port = url.port ∧
    target.path.toList = withoutLastSlashes url.path.toList ++ "/user/new".toList

namespace Url

theorem started_onward {path : List Char} (hstarted : Started path) (rest : List Char) :
    Started (path ++ '/' :: rest) := by
  cases path with
  | nil =>
      intro c hhead
      cases hhead
      rfl
  | cons c cs => exact hstarted

theorem slashes_suffix_iff (cs : List Char) :
    ['/', '/'] <:+ cs ++ ['/'] ↔ cs.getLast? = some '/' := by
  rw [show (['/', '/'] : List Char) = ['/'] ++ ['/'] from rfl,
    List.suffix_append_inj_of_length_eq rfl, and_iff_left rfl]
  rw [List.singleton_suffix_iff_getLast?_eq_some]

section Onward

variable {layout : Layout} {found : Authority} {text : String}

theorem parse_onward (hfits : layout.Fits)
    (hok : authority layout.scheme true layout.place = .ok found) {more : List Char}
    (hstarted : Started (layout.path ++ more)) (hquery : '?' ∉ more) (hfragment : '#' ∉ more)
    (heq : cleaned text.toList = layout.text ++ more) :
    Url.parse text = .ok (webUrl layout.scheme (layout.path ++ more) found) :=
  ((hfits.onward hstarted hquery hfragment).parse_eq_ok_iff
    (by rw [heq, Layout.onward_text])).mpr ⟨found, hok, rfl⟩

theorem accepted_of_parse {path : List Char} (hfits : layout.Fits)
    (hok : authority layout.scheme true layout.place = .ok found)
    (hparsed : Url.parse text = .ok (webUrl layout.scheme path found)) :
    baseUrlProblem? text = none := by
  obtain ⟨⟨host, -, hhost⟩, -⟩ := (authority_eq_ok_iff hfits.special true).mp hok
  refine baseUrlProblem?_eq_none_iff.mpr ⟨_, hparsed, hfits.web, ?_, rfl, rfl⟩
  simp [webUrl, hhost]

end Onward

/-- The layout of a base URL of which nothing is lost, without the slashes at its end. -/
theorem exists_start {base : String} (haccepted : baseUrlProblem? base = none)
    (hkept : lost base.toList = []) :
    ∃ start : Layout, ∃ found count, start.Fits ∧
      start.text = opened (withoutLastSlashes base.toList) ∧
      cleaned base.toList = start.text ++ List.replicate count '/' ∧
      authority start.scheme true start.place = .ok found := by
  obtain ⟨layout, found, hfits, heq, hok⟩ := exists_layout haccepted
  obtain ⟨count, hbaseText⟩ := exists_eq_append_slashes base.toList
  have hwhole : layout.text =
      opened (withoutLastSlashes base.toList) ++ List.replicate count '/' := by
    rw [← heq]
    cases count with
    | zero =>
        have hne : cleaned base.toList ≠ [] := by rw [heq]; simp [Layout.text]
        have hnone := opened_eq hne
        rw [hkept, List.append_nil] at hnone
        rw [List.replicate_zero, List.append_nil] at hbaseText ⊢
        rw [← hbaseText, hnone]
    | succ count =>
        have hplain : ∀ c ∈ List.replicate (count + 1) '/', isOuter c = false := fun c hmem => by
          rw [List.eq_of_mem_replicate hmem]
          rfl
        conv_lhs => rw [hbaseText]
        exact cleaned_append (by simp) hplain _
  obtain ⟨start, hstart, htext, rfl⟩ := hfits.exists_front hwhole
  exact ⟨start, found, count, hstart, htext, by rw [heq, Layout.onward_text], hok⟩

section Kept

variable {proxy : ProxySettings}

/-- The path of users behind its first slash. -/
def usersPath : List Char :=
  ['u', 's', 'e', 'r', '/', 'n', 'e', 'w']

theorem toList_users : "/user/new".toList = '/' :: usersPath := by decide

theorem toList_endpoint (proxy : ProxySettings) : proxy.endpoint.toList =
    withoutLastSlashes proxy.baseUrl.toList ++ '/' :: usersPath := by
  rw [ProxySettings.endpoint, String.toList_append, String.toList_ofList, toList_users]

/-- What the text of a base URL is read as where users or nothing stands behind a slash. -/
theorem serves_iff_of_kept (haccepted : baseUrlProblem? proxy.baseUrl = none)
    (hkept : lost proxy.baseUrl.toList = []) :
    proxy.Serves ↔ ∀ url,
      Url.parse (String.ofList (withoutLastSlashes proxy.baseUrl.toList ++ ['/'])) = .ok url →
        ¬ ['/', '/'] <:+ url.path.toList := by
  obtain ⟨start, found, count, hfits, htext, hbaseText, hok⟩ := exists_start haccepted hkept
  have hbase := parse_onward hfits hok (hfits.path.append_slashes count)
    (fun hmem => by cases List.eq_of_mem_replicate hmem)
    (fun hmem => by cases List.eq_of_mem_replicate hmem) hbaseText
  have hopenText :
      cleaned (String.ofList (withoutLastSlashes proxy.baseUrl.toList ++ ['/'])).toList =
        start.text ++ ['/'] := by
    rw [String.toList_ofList, cleaned_append (by simp) (by simp [isOuter]), htext]
  have hopenStarted : Started (start.path ++ ['/']) := started_onward hfits.path []
  have hopened := parse_onward hfits hok hopenStarted (by simp) (by simp) hopenText
  have husersText : cleaned proxy.endpoint.toList = start.text ++ '/' :: usersPath := by
    rw [toList_endpoint, cleaned_append (by simp) (by simp [usersPath, isOuter]), htext]
  have husersStarted : Started (start.path ++ '/' :: usersPath) :=
    started_onward hfits.path usersPath
  have husers := parse_onward hfits hok husersStarted (by simp [usersPath]) (by simp [usersPath])
    husersText
  have hbasePath : withoutLastSlashes (pathAfter true (start.path ++ List.replicate count '/')) =
      withoutLastSlashes (stem start.path) :=
    withoutLastSlashes_pathAfter_append_slashes hfits.path count
  have hopenPath : pathAfter true (start.path ++ ['/']) = stem start.path ++ ['/'] :=
    pathAfter_append hfits.path (by decide)
  have husersPath : pathAfter true (start.path ++ '/' :: usersPath) =
      stem start.path ++ '/' :: usersPath :=
    pathAfter_append hfits.path (by decide)
  calc proxy.Serves
      ↔ withoutLastSlashes (stem start.path) = stem start.path := by
        constructor
        · rintro ⟨-, url, target, hparsed, hreached, -, -, -, hpath⟩
          rw [hbase] at hparsed
          rw [husers] at hreached
          cases hparsed
          cases hreached
          simp only [webUrl, String.toList_ofList, toList_users, husersPath, hbasePath] at hpath
          exact (List.append_cancel_right hpath).symm
        · intro hwhole
          refine ⟨accepted_of_parse hfits hok husers, _, _, hbase, husers, rfl, rfl, rfl, ?_⟩
          simp only [webUrl, String.toList_ofList, toList_users, husersPath, hbasePath, hwhole]
    _ ↔ (stem start.path).getLast? ≠ some '/' := withoutLastSlashes_eq_self_iff
    _ ↔ _ := by
        rw [hopened]
        simp only [Except.ok.injEq, forall_eq', webUrl, String.toList_ofList, hopenPath,
          slashes_suffix_iff, ne_eq]

end Kept

section Lost

variable {proxy : ProxySettings}

section Blanks

variable {blanks : List Char} (hlow : ∀ c ∈ blanks, c ≤ ' ')
include hlow

theorem isSlash_eq_false_of_low {c : Char} (hmem : c ∈ blanks) : isSlash true c = false := by
  have hforward := ne_of_low (hlow c hmem) (d := '/') (by decide)
  have hbackward := ne_of_low (hlow c hmem) (d := '\\') (by decide)
  simp [isSlash, hforward, hbackward]

theorem query_notMem_users : '?' ∉ blanks ++ '/' :: usersPath := by
  simp [notMem_of_low hlow (d := '?') (by decide), usersPath]

theorem fragment_notMem_users : '#' ∉ blanks ++ '/' :: usersPath := by
  simp [notMem_of_low hlow (d := '#') (by decide), usersPath]

variable {layout : Layout} {found : Authority} {text : String} (hfits : layout.Fits)
  (hok : authority layout.scheme true layout.place = .ok found)
  (htext : cleaned text.toList = layout.text ++ (blanks ++ '/' :: usersPath))
include hfits hok htext

/-- Where the base has no path, the blanks at its end would become part of its host or port. -/
theorem parse_widened_ne_ok (hne : blanks ≠ []) (hpath : layout.path = []) (target : Url) :
    Url.parse text ≠ .ok target := by
  have hwidened : (layout.widened blanks ('/' :: usersPath)).Fits :=
    hfits.widened hpath (fun _ => isSlash_eq_false_of_low hlow)
      (fun _ hhead => by cases hhead; rfl) (query_notMem_users hlow) (fragment_notMem_users hlow)
  intro hreached
  obtain ⟨other, hagain, -⟩ := (hwidened.parse_eq_ok_iff
    (by rw [htext, Layout.widened_text hpath])).mp hreached
  exact authority_append_ne_ok hlow hfits.special hfits.place hok hne hagain

/-- Where the base has a path, the blanks at its end become escapes in it. -/
theorem path_of_parse (hpath : layout.path ≠ []) {target : Url}
    (hreached : Url.parse text = .ok target) :
    target.path.toList = stem (layout.path ++ blanks) ++ '/' :: usersPath := by
  have hstarted : Started (layout.path ++ blanks) := by
    intro c hhead
    exact hfits.path c (by rwa [List.head?_append_of_ne_nil _ hpath] at hhead)
  have hwhole : Started (layout.path ++ (blanks ++ '/' :: usersPath)) := by
    rw [← List.append_assoc]
    exact started_onward hstarted usersPath
  rw [parse_onward hfits hok hwhole (query_notMem_users hlow) (fragment_notMem_users hlow) htext]
    at hreached
  cases hreached
  rw [webUrl, String.toList_ofList, ← List.append_assoc]
  exact pathAfter_append hstarted (by decide)

end Blanks

theorem not_serves_of_lost (haccepted : baseUrlProblem? proxy.baseUrl = none)
    (hlost : lost proxy.baseUrl.toList ≠ []) : ¬proxy.Serves := by
  obtain ⟨layout, found, hfits, heq, hok⟩ := exists_layout haccepted
  have hlow : ∀ c ∈ lost proxy.baseUrl.toList, c ≤ ' ' := fun c hmem => low_of_mem_lost hmem
  have htext : cleaned proxy.endpoint.toList =
      layout.text ++ (lost proxy.baseUrl.toList ++ '/' :: usersPath) := by
    rw [toList_endpoint, withoutLastSlashes_of_lost hlost,
      cleaned_append (by simp) (by simp [usersPath, isOuter]),
      opened_eq (by rw [heq]; simp [Layout.text]), heq, List.append_assoc]
  rintro ⟨-, url, target, hparsed, hreached, -, -, -, hpath⟩
  by_cases hnone : layout.path = []
  · exact parse_widened_ne_ok hlow hfits hok htext hlost hnone target hreached
  · rw [(hfits.parse_eq_ok_iff heq).mpr ⟨found, hok, rfl⟩] at hparsed
    cases hparsed
    rw [path_of_parse hlow hfits hok htext hnone hreached, toList_users] at hpath
    have hsame : stem (layout.path ++ lost proxy.baseUrl.toList) =
        withoutLastSlashes (stem layout.path) := by
      rw [List.append_cancel_right hpath, webUrl, String.toList_ofList,
        withoutLastSlashes_pathAfter hfits.path]
    have hlonger := length_stem_lt hlow hlost hnone
    rw [hsame] at hlonger
    exact absurd hlonger (Nat.not_lt.mpr (length_withoutLastSlashes_le _))

end Lost
end Url

namespace ProxySettings

/-- The address of users is that of an accepted base with the path of users behind its own, if no
blank or control character is lost at the end of the base, and if going on behind the base and a
slash makes no empty segment. Otherwise it is another address or none. -/
theorem serves_iff_kept_and_gapless {proxy : ProxySettings}
    (haccepted : baseUrlProblem? proxy.baseUrl = none) :
    proxy.Serves ↔ Url.lost proxy.baseUrl.toList = [] ∧ ∀ url,
      Url.parse (String.ofList (withoutLastSlashes proxy.baseUrl.toList ++ ['/'])) = .ok url →
        ¬ ['/', '/'] <:+ url.path.toList := by
  constructor
  · intro hserves
    have hkept : Url.lost proxy.baseUrl.toList = [] :=
      Classical.not_not.1 fun hlost => Url.not_serves_of_lost haccepted hlost hserves
    exact ⟨hkept, (Url.serves_iff_of_kept haccepted hkept).1 hserves⟩
  · rintro ⟨hkept, hgapless⟩
    exact (Url.serves_iff_of_kept haccepted hkept).2 hgapless

/-- Slashes and steps in front of the last slashes of a base do no harm. -/
theorem serves_iff_kept_and_gapless_of_steps :
    baseUrlProblem? "http://[::1]:4000/a//./proxy//" = none ∧
      ({ baseUrl := "http://[::1]:4000/a//./proxy//" } : ProxySettings).Serves := by
  refine ⟨by decide +kernel, (serves_iff_kept_and_gapless (by decide +kernel)).2
    ⟨by decide +kernel, fun url hurl => ?_⟩⟩
  have hpath : ((Url.parse (String.ofList
      (withoutLastSlashes "http://[::1]:4000/a//./proxy//".toList ++ ['/']))).toOption.map
      Url.path) = some "/a//proxy/" := by decide +kernel
  rw [hurl] at hpath
  rw [Option.some.inj hpath]
  decide

/-- A base URL with a blank at its end is accepted, and the address of users is no address at all. -/
theorem not_serves_of_blank :
    ¬∀ proxy : ProxySettings, baseUrlProblem? proxy.baseUrl = none → proxy.Serves := by
  intro hserves
  have haccepted : baseUrlProblem? "http://[::1] " = none := by decide +kernel
  have hrejected : baseUrlProblem? ({ baseUrl := "http://[::1] " } : ProxySettings).endpoint ≠
      none := by decide +kernel
  exact hrejected (hserves { baseUrl := "http://[::1] " } haccepted).accepted

end ProxySettings
end Enrolment
