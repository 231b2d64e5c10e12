import Mathlib.Data.List.Basic
import PolicyAgent.Platform.Client
import PolicyAgent.Proofs.Time.WholeMinutes

/-!
# The addresses of the endpoints

An endpoint is one segment below the base address. All endpoints have one site, and so one front:
scheme, user information and site. Behind it, an endpoint is written as the base address is, with a
slash and the segment at the end of the path, or of the query if there is one. So the addresses of
two endpoints differ in their segments only.
-/
namespace PolicyAgent.Platform.Url

open PolicyAgent.Text

variable {base url url' : Url} {texts : UrlTexts} {segment segment' : List Char}

/-- What the parts of an address are made from. -/
structure IsOf (url : Url) (texts : UrlTexts) : Prop where
  scheme : url.scheme = texts.scheme.map Char.toLower
  user : encodePart isUserSafe (UrlTexts.splitAuthority texts.authority).1 = .ok url.user
  host : Host.ofChars (UrlTexts.splitAuthority texts.authority).2.1 = .ok url.host
  number : readNumber url.scheme (UrlTexts.splitAuthority texts.authority).2.2 = .ok url.number
  checked : url.hasAuthority = true → texts.path = [] ∨ texts.path.head? = some '/'
  path : url.hasAuthority = true →
    encodePart isPathSafe (resolvePath texts.path) = .ok url.path
  query : texts.query.mapM (encodePart isQuerySafe) = .ok url.query
  fragment : texts.fragment.mapM (encodePart isFragmentSafe) = .ok url.fragment

theorem isOf_of_ofTexts (h : ofTexts texts = .ok url) : url.IsOf texts := by
  simp only [ofTexts, bind_eq_ok_iff, mapError_eq_ok_iff, pure, Except.pure, Except.ok.injEq] at h
  obtain ⟨user, huser, host, hhost, number, hnumber, _, hcheck, path, hpath, query, hquery,
    fragment, hfragment, rfl⟩ := h
  refine ⟨rfl, huser, hhost, hnumber, fun hauthority => ?_, fun hauthority => ?_, hquery,
    hfragment⟩
  all_goals
    change hasAuthority ⟨texts.scheme.map Char.toLower, user, host, number, texts.path, none,
      none⟩ = true at hauthority
  · unfold checkPath at hcheck
    rw [if_pos hauthority] at hcheck
    by_contra hnot
    rw [if_neg hnot] at hcheck
    nomatch hcheck
  · simpa [hauthority] using hpath

theorem hasAuthority_of_host (h : url.host ≠ []) : url.hasAuthority = true := by
  simp [hasAuthority, h]

theorem eq_of_encodePart {safe : Char → Bool} {cs encoded : List Char}
    (h : encodePart safe cs = .ok encoded) : encoded = percentEncode safe cs := by
  unfold encodePart at h
  split at h
  · cases h
  · exact (Except.ok.inj h).symm

theorem eq_of_mapM_encodePart {safe : Char → Bool} {part encoded : Option (List Char)}
    (h : part.mapM (encodePart safe) = .ok encoded) :
    encoded = part.map (percentEncode safe) := by
  cases part with
  | none => exact (Except.ok.inj h).symm
  | some cs =>
    change (encodePart safe cs).map some = .ok encoded at h
    cases hcs : encodePart safe cs with
    | error e => simp [hcs, Except.map] at h
    | ok written =>
      rw [hcs] at h
      rw [← Except.ok.inj h, eq_of_encodePart hcs]
      rfl

theorem texts_extended (extension : List Char → List Char) :
    (base.extended extension).scheme = base.scheme ∧
      (base.extended extension).authority = base.authority := by
  unfold extended
  cases base.query <;> exact ⟨rfl, rfl⟩

theorem isOf_of_child (h : base.child segment = .ok url) :
    url.IsOf (base.extended fun cs => withSlash cs ++ segment) := by
  simp only [child, ofParts, bind_eq_ok_iff] at h
  obtain ⟨-, -, -, -, -, -, -, -, -, -, h⟩ := h
  exact isOf_of_ofTexts h

/-- What an address has in front of its path. -/
def front (url : Url) : List Char :=
  (if url.scheme = [] then [] else url.scheme ++ [':'])
    ++ (if url.authority = [] then [] else '/' :: '/' :: url.authority)

theorem write_eq (url : Url) :
    url.write = url.front ++ (url.path ++ (url.query.map ('?' :: ·)).getD []
      ++ (url.fragment.map ('#' :: ·)).getD []) := by
  simp [write, front]

/-- Two addresses below one address are on one site, and have one front. -/
theorem site_of_child (h : base.child segment = .ok url) (h' : base.child segment' = .ok url') :
    url.host = url'.host ∧ url.number = url'.number ∧ url.front = url'.front := by
  obtain ⟨hscheme, huser, hhost, hnumber⟩ := isOf_of_child h
  obtain ⟨hscheme', huser', hhost', hnumber'⟩ := isOf_of_child h'
  rw [(texts_extended _).1] at hscheme hscheme'
  rw [(texts_extended _).2] at huser huser' hhost hhost' hnumber hnumber'
  rw [hscheme] at hnumber
  rw [hscheme'] at hnumber'
  have hhostEq := Except.ok.inj (hhost.symm.trans hhost')
  have hnumberEq := Except.ok.inj (hnumber.symm.trans hnumber')
  refine ⟨hhostEq, hnumberEq, ?_⟩
  unfold front authority site
  rw [hscheme, hscheme', Except.ok.inj (huser.symm.trans huser'), hhostEq, hnumberEq]

/-- The host stands for a name, and the site can be written. -/
def HasSite (url : Url) : Prop :=
  (∃ name, Host.meant url.host = .ok name) ∧ Repertoire.ascii.check url.site = .ok ()

theorem HasSite.of_child (hsite : url.HasSite) (h : base.child segment = .ok url)
    (h' : base.child segment' = .ok url') : url'.HasSite := by
  obtain ⟨hhost, hnumber, -⟩ := site_of_child h h'
  unfold HasSite site at *
  rwa [← hhost, ← hnumber]

theorem resolveSegments_append (hdot : segment ≠ ['.']) (hdots : segment ≠ ['.', '.'])
    (done segments : List (List Char)) :
    resolveSegments done (segments ++ [segment]) = resolveSegments done segments ++ [segment] := by
  induction segments generalizing done with
  | nil => simp [resolveSegments, hdot, hdots]
  | cons first rest ih =>
    simp only [List.cons_append, resolveSegments, ih]
    split_ifs <;> rfl

/-- The empty segment in front of the first slash is never taken away. -/
theorem resolveSegments_ne_nil (done segments : List (List Char)) :
    resolveSegments (done ++ [[]]) segments ≠ [] := by
  induction segments generalizing done with
  | nil => simp [resolveSegments]
  | cons first rest ih =>
    unfold resolveSegments
    split_ifs with hdot hdots hfirst
    · exact ih done
    · exact ih done
    · cases done with
      | nil => exact absurd rfl hfirst
      | cons last done => exact ih done
    · exact ih (first :: done)

theorem intercalate_concat {separator last : List Char} {parts : List (List Char)}
    (h : parts ≠ []) :
    separator.intercalate (parts ++ [last]) = separator.intercalate parts ++ separator ++ last := by
  induction parts with
  | nil => exact absurd rfl h
  | cons first rest ih =>
    cases rest with
    | nil => simp [List.intercalate_cons_of_ne_nil]
    | cons second rest =>
      have hne : second :: rest ++ [last] ≠ [] := by simp
      rw [List.cons_append, List.intercalate_cons_of_ne_nil hne, ih (by simp),
        List.intercalate_cons_cons]
      simp

theorem resolvePath_append {path : List Char} (hpath : path = [] ∨ path.head? = some '/')
    (hdot : segment ≠ ['.']) (hdots : segment ≠ ['.', '.']) (hslash : '/' ∉ segment) :
    resolvePath (path ++ '/' :: segment) = resolvePath path ++ '/' :: segment := by
  have hfirst : ∃ rest, path.splitOn '/' = [] :: rest := by
    rcases hpath with rfl | hhead
    · exact ⟨[], List.splitOn_nil _⟩
    · obtain ⟨rest, rfl⟩ : ∃ rest, path = '/' :: rest := by
        cases path with
        | nil => simp at hhead
        | cons c rest => exact ⟨rest, by simpa using hhead⟩
      exact ⟨rest.splitOn '/', by simp [List.splitOn_cons_eq_if_modifyHead]⟩
  obtain ⟨rest, hrest⟩ := hfirst
  have hne : resolveSegments [] (path.splitOn '/') ≠ [] := by
    rw [hrest]
    exact resolveSegments_ne_nil [] rest
  unfold resolvePath
  rw [List.splitOn_append_cons_self, List.splitOn_eq_singleton hslash,
    resolveSegments_append hdot hdots, intercalate_concat hne]
  simp

def withoutSlash (cs : List Char) : List Char :=
  if cs.getLast? = some '/' then cs.dropLast else cs

theorem withSlash_eq (cs : List Char) : withSlash cs = withoutSlash cs ++ ['/'] := by
  unfold withSlash withoutSlash
  split_ifs with h
  · exact (List.dropLast_append_getLast? '/' h).symm
  · rfl

/-- What an address below the base address has between its front and its last slash. -/
def above (base : Url) : List Char :=
  let path := if base.path = [] then ['/'] else base.path
  match base.query with
  | none => percentEncode isPathSafe (resolvePath (withoutSlash path))
  | some query => percentEncode isPathSafe (resolvePath path) ++ '?' ::
      percentEncode isQuerySafe (withoutSlash query)

/-- What an address below the base address has behind its segment. -/
def behind (base : Url) : List Char :=
  (base.fragment.map fun fragment => '#' :: percentEncode isFragmentSafe fragment).getD []

/-- A segment that is written as it is. -/
structure IsPlain (segment : List Char) : Prop where
  path : ∀ c ∈ segment, isPathSafe c = true
  query : ∀ c ∈ segment, isQuerySafe c = true
  slash : '/' ∉ segment
  dot : segment ≠ ['.']
  dots : segment ≠ ['.', '.']

instance (segment : List Char) : Decidable (IsPlain segment) :=
  decidable_of_iff (segment.all isPathSafe = true ∧ segment.all isQuerySafe = true ∧
      '/' ∉ segment ∧ segment ≠ ['.'] ∧ segment ≠ ['.', '.']) <| by
    rw [List.all_eq_true, List.all_eq_true]
    exact ⟨fun ⟨path, query, slash, dot, dots⟩ => ⟨path, query, slash, dot, dots⟩,
      fun ⟨path, query, slash, dot, dots⟩ => ⟨path, query, slash, dot, dots⟩⟩

theorem percentEncode_append_cons_of_isGraphicBut {excluded cs ds : List Char} {c : Char}
    (h : ∀ d ∈ c :: ds, isGraphicBut excluded d = true) :
    percentEncode (isGraphicBut excluded) (cs ++ c :: ds)
      = percentEncode (isGraphicBut excluded) cs ++ c :: ds := by
  have hordinary : ∀ d ∈ c :: ds, isOrdinary d = true := by
    intro d hd
    have hgraphic := h d hd
    simp only [isGraphicBut, Bool.and_eq_true, decide_eq_true_eq] at hgraphic
    exact isOrdinary_of_lt (by omega)
  rw [percentEncode_append_cons _ (hordinary c List.mem_cons_self),
    percentEncode_eq_self h hordinary]

theorem write_child (hsegment : IsPlain segment) (h : base.child segment = .ok url)
    (hhost : url.host ≠ []) :
    url.write = url.front ++ base.above ++ '/' :: segment ++ base.behind := by
  have hpathSlash : isPathSafe '/' = true := by decide
  have hquerySlash : isQuerySafe '/' = true := by decide
  have hencodedPath (cs : List Char) :
      percentEncode isPathSafe (cs ++ '/' :: segment)
        = percentEncode isPathSafe cs ++ '/' :: segment :=
    percentEncode_append_cons_of_isGraphicBut
      (List.forall_mem_cons.2 ⟨hpathSlash, hsegment.path⟩)
  have hencodedQuery (cs : List Char) :
      percentEncode isQuerySafe (cs ++ '/' :: segment)
        = percentEncode isQuerySafe cs ++ '/' :: segment :=
    percentEncode_append_cons_of_isGraphicBut
      (List.forall_mem_cons.2 ⟨hquerySlash, hsegment.query⟩)
  have hauthority := hasAuthority_of_host hhost
  have hparts := isOf_of_child h
  have hrooted := hparts.checked hauthority
  rw [write_eq, eq_of_encodePart (hparts.path hauthority), eq_of_mapM_encodePart hparts.query,
    eq_of_mapM_encodePart hparts.fragment]
  clear hparts
  unfold extended at hrooted ⊢
  unfold above behind
  generalize (if base.path = [] then ['/'] else base.path) = path at hrooted ⊢
  -- The segment goes behind the query if there is one.
  cases hbase : base.query with
  | none =>
    rw [hbase] at hrooted
    have hrooted : withoutSlash path = [] ∨ (withoutSlash path).head? = some '/' := by
      cases hcases : withoutSlash path with
      | nil => exact .inl rfl
      | cons c rest => exact .inr (by simpa [withSlash_eq, hcases] using hrooted)
    have hresolved : resolvePath (withSlash path ++ segment)
        = resolvePath (withoutSlash path) ++ '/' :: segment := by
      rw [withSlash_eq, List.append_assoc]
      exact resolvePath_append hrooted hsegment.dot hsegment.dots hsegment.slash
    simp [texts, hbase, hresolved, hencodedPath, Function.comp_def]
  | some query => simp [texts, withSlash_eq, hencodedQuery, Function.comp_def]

end PolicyAgent.Platform.Url
