import CertEnroll.Authority.Tpp
import CertEnroll.Proofs.Texts

namespace CertEnroll.Url

def IsVisible (cs : List Char) : Prop :=
  ∀ c ∈ cs, 32 < c.toNat

def front (cs : List Char) : List Char :=
  (cs.dropWhile (·.toNat ≤ 32)).filter fun c => c ∉ ['\t', '\n', '\r']

theorem isVisible_of_all {cs : List Char} (h : cs.all (fun c => 32 < c.toNat) = true) : IsVisible cs := by
  intro c hc
  exact of_decide_eq_true (List.all_eq_true.mp h c hc)

theorem strip_append (cs : List Char) {first : Char} {tail : List Char} (hv : IsVisible (first :: tail)) :
    strip (cs ++ first :: tail) = front cs ++ first :: tail := by
  have hfirst : (first :: tail).dropWhile (fun c => decide (c.toNat ≤ 32)) = first :: tail := by
    have := hv first List.mem_cons_self
    exact List.dropWhile_cons_of_neg (by simpa using this)
  have hdrop : (cs ++ first :: tail).dropWhile (fun c => decide (c.toNat ≤ 32)) =
      cs.dropWhile (fun c => decide (c.toNat ≤ 32)) ++ first :: tail := by
    rw [List.dropWhile_append, hfirst]
    split
    · rename_i hempty
      rw [List.isEmpty_iff.mp hempty, List.nil_append]
    · rfl
  have hend (front : List Char) : Text.dropEndWhile (fun c => decide (c.toNat ≤ 32)) (front ++ first :: tail) =
      front ++ first :: tail := by
    rw [Text.dropEndWhile_eq_rdropWhile, List.rdropWhile_eq_self_iff]
    intro hne
    rw [List.getLast_append_of_ne_nil hne (List.cons_ne_nil first tail)]
    have := hv _ (List.getLast_mem (List.cons_ne_nil first tail))
    simpa using this
  have hfilter : (first :: tail).filter (fun c => decide (c ∉ ['\t', '\n', '\r'])) = first :: tail := by
    rw [List.filter_eq_self]
    intro c hc
    have hvisible := hv c hc
    rw [decide_eq_true_eq]
    intro hm
    simp only [List.mem_cons, List.not_mem_nil, or_false] at hm
    rcases hm with rfl | rfl | rfl
    · exact absurd hvisible (by decide)
    · exact absurd hvisible (by decide)
    · exact absurd hvisible (by decide)
  rw [strip, hdrop, hend, List.filter_append, hfilter, front]

section

variable {scheme : String} {cs : List Char} {url : Url}

theorem readAuthority_scheme (h : readAuthority scheme cs = .ok url) : url.scheme = scheme := by
  simp only [readAuthority, bind, Except.bind] at h
  repeat' split at h
  all_goals
    cases h
  all_goals rfl

theorem readFileUrl_scheme (h : readFileUrl cs = .ok url) : url.scheme = "file" := by
  simp only [readFileUrl, bind, Except.bind] at h
  repeat' split at h
  all_goals
    cases h
  all_goals rfl

end

theorem readAuthority_tail {scheme : String} {m tail : List Char} {url : Url} (hs : isSpecial scheme = true)
    (h : readAuthority scheme (m ++ '/' :: tail) = .ok url) (tail' : List Char) :
    ∃ url', readAuthority scheme (m ++ '/' :: tail') = .ok url' ∧ url'.host = url.host := by
  have hcut (tail : List Char) :
      (cutBefore (fun c => isSlash true c || c == '?' || c == '#') (m ++ '/' :: tail)).1 =
        (cutBefore (fun c => isSlash true c || c == '?' || c == '#') (m ++ ['/'])).1 := by
    rw [cutBefore, cutBefore, List.takeWhile_append, List.takeWhile_append]
    rfl
  simp only [readAuthority, hs, if_true, hcut, bind, Except.bind] at h ⊢
  split at h
  · cases h
  · split at h
    · cases h
    · obtain rfl := Except.ok.inj h
      exact ⟨_, rfl, rfl⟩

structure IsSchemeStart (start : List Char) (scheme : String) : Prop where
  shape : ∃ c letters, start = c :: letters ++ [':'] ∧ c.isAlpha = true ∧ (∀ d ∈ c :: letters, isSchemeChar d = true) ∧
    scheme = String.ofList ((c :: letters).map Char.toLower)

section

variable {s : String} {start rest : List Char} {scheme : String} {url : Url}

theorem IsSchemeStart.not_slash (hs : IsSchemeStart start scheme) : '/' ∉ start := by
  obtain ⟨c, letters, rfl, -, hletters, -⟩ := hs.shape
  intro hm
  rcases List.mem_append.mp hm with hm | hm
  · exact absurd (hletters _ hm) (by decide)
  · exact absurd hm (by decide)

theorem parse_special (hs : IsSchemeStart start scheme) (hstrip : strip s.toList = start ++ rest)
    (hspecial : isSpecial scheme = true) (hfile : scheme ≠ "file") :
    parse s = readAuthority scheme (rest.dropWhile (isSlash true)) := by
  obtain ⟨c, letters, rfl, halpha, hletters, rfl⟩ := hs.shape
  have htake : (c :: letters ++ [':'] ++ rest).takeWhile isSchemeChar = c :: letters := by
    rw [List.append_assoc, List.takeWhile_append_of_pos hletters]
    exact List.append_nil _
  have hdrop : (c :: letters ++ [':'] ++ rest).drop (c :: letters).length = ':' :: rest := by
    rw [List.append_assoc, List.drop_left]
    rfl
  simp only [parse, hstrip, htake, hdrop, halpha, hspecial, if_neg hfile]
  rfl

theorem exists_schemeStart (h : parse s = .ok url) (hspecial : isSpecial url.scheme = true)
    (hfile : url.scheme ≠ "file") : ∃ start rest, IsSchemeStart start url.scheme ∧ strip s.toList = start ++ rest := by
  unfold parse at h
  dsimp only at h
  split at h
  · rename_i c letters rest hletters hrest
    split at h
    · cases h
    · rename_i halpha
      have hscheme : url.scheme = String.ofList ((c :: letters).map Char.toLower) := by
        rw [hletters] at h
        split at h
        · exact absurd (readFileUrl_scheme h) hfile
        · split at h
          · exact readAuthority_scheme h
          · split at h
            · exact readAuthority_scheme h
            · obtain rfl := Except.ok.inj h
              rfl
      have hsplit := List.takeWhile_append_dropWhile (p := isSchemeChar) (l := strip s.toList)
      have hdrop : ((strip s.toList).takeWhile isSchemeChar ++ (strip s.toList).dropWhile isSchemeChar).drop
          ((strip s.toList).takeWhile isSchemeChar).length = (strip s.toList).dropWhile isSchemeChar := List.drop_left
      rw [hsplit, hrest] at hdrop
      refine ⟨c :: letters ++ [':'], rest, ⟨c, letters, rfl, by simpa using halpha, ?_, hscheme⟩, ?_⟩
      · intro d hd
        rw [← hletters] at hd
        exact List.mem_takeWhile_imp hd
      · rw [hletters, ← hdrop] at hsplit
        rw [← hsplit, List.append_assoc, List.singleton_append]
  · cases h

end

section

variable {base first : List Char} (hfirst : ∀ c ∈ first.head?, isSlash true c = false)

include hfirst

theorem dropWhile_slashes (hne : first ≠ []) (more : List Char) :
    ∃ (host : List Char) (path : List Char → List Char), ∀ tail,
      (more ++ '/' :: (first ++ '/' :: tail)).dropWhile (isSlash true) = host ++ '/' :: path tail := by
  cases hmore : more.dropWhile (isSlash true) with
  | nil =>
    refine ⟨first, id, fun tail => ?_⟩
    rw [List.dropWhile_append, hmore]
    cases first with
    | nil => exact absurd rfl hne
    | cons c first =>
      have hc : isSlash true c = false := hfirst c rfl
      rw [List.isEmpty_nil, if_pos rfl, List.dropWhile_cons_of_pos rfl, List.cons_append,
        List.dropWhile_cons_of_neg (by rw [hc]; exact Bool.false_ne_true)]
      rfl
  | cons c host =>
    refine ⟨c :: host, fun tail => first ++ '/' :: tail, fun tail => ?_⟩
    rw [List.dropWhile_append, hmore]
    rfl

theorem parse_web (hne : first ≠ []) {tail tail' : List Char} (hv : IsVisible ('/' :: (first ++ '/' :: tail)))
    (hv' : IsVisible ('/' :: (first ++ '/' :: tail'))) {url : Url}
    (h : parse (String.ofList (base ++ '/' :: (first ++ '/' :: tail))) = .ok url)
    (hspecial : isSpecial url.scheme = true) (hfile : url.scheme ≠ "file") :
    ∃ url', parse (String.ofList (base ++ '/' :: (first ++ '/' :: tail'))) = .ok url' ∧ url'.scheme = url.scheme ∧
      url'.host = url.host := by
  obtain ⟨start, rest, hstart, hstrip⟩ := exists_schemeStart h hspecial hfile
  rw [String.toList_ofList, strip_append base hv] at hstrip
  obtain ⟨more, hfront, rfl⟩ : ∃ more, front base = start ++ more ∧ rest = more ++ '/' :: (first ++ '/' :: tail) := by
    rcases List.append_eq_append_iff.mp hstrip with ⟨extra, hextra, hrest⟩ | ⟨more, hmore, hrest⟩
    · cases extra with
      | nil => exact ⟨[], by rw [hextra, List.append_nil, List.append_nil], hrest.symm⟩
      | cons c extra =>
        obtain rfl : '/' = c := (List.cons.inj hrest).1
        exact absurd (hextra ▸ List.mem_append_right _ List.mem_cons_self) hstart.not_slash
    · exact ⟨more, hmore, hrest⟩
  have hparse {tail : List Char} (hv : IsVisible ('/' :: (first ++ '/' :: tail))) :
      parse (String.ofList (base ++ '/' :: (first ++ '/' :: tail))) =
        readAuthority url.scheme ((more ++ '/' :: (first ++ '/' :: tail)).dropWhile (isSlash true)) := by
    apply parse_special hstart _ hspecial hfile
    rw [String.toList_ofList, strip_append base hv, hfront, List.append_assoc]
  obtain ⟨host, path, hdrop⟩ := dropWhile_slashes hfirst hne more
  rw [hparse hv, hdrop] at h
  obtain ⟨url', hread, hhost⟩ := readAuthority_tail hspecial h (path tail')
  have hscheme := readAuthority_scheme hread
  rw [← hdrop, ← hparse hv'] at hread
  exact ⟨url', hread, hscheme, hhost⟩

end

end CertEnroll.Url

namespace CertEnroll.Tpp

theorem target_eq_ok {path : String} {t : Tpp} {url : Url} :
    t.target path = .ok url ↔ ∃ read, Url.parse (t.base ++ path) = .ok read ∧ read.host.isSome = true ∧
      Http.isHeaderText t.authorization = true ∧ (read.scheme = "http" ∨ read.scheme = "https") ∧
      url = { read with user := "" } := by
  constructor
  · intro h
    unfold target at h
    split at h
    · cases h
    · rename_i read hread
      split at h
      · cases h
      · rename_i hhost
        split at h
        · cases h
        · rename_i hheader
          dsimp only at h
          split at h
          · rename_i hscheme
            exact ⟨read, hread, by simpa [Option.isSome_iff_ne_none] using hhost, by simpa using hheader, hscheme,
              (Except.ok.inj h).symm⟩
          · cases h
  · rintro ⟨read, hread, hhost, hheader, hscheme, rfl⟩
    obtain ⟨host, hhost⟩ := Option.isSome_iff_exists.mp hhost
    simp only [target, hread, hhost, hheader, if_pos hscheme]
    rfl

theorem exists_target_retrievePath {t : Tpp} {url : Url} (h : t.target requestPath = .ok url) :
    ∃ url', t.target retrievePath = .ok url' := by
  obtain ⟨read, hread, hhost, hheader, hscheme, -⟩ := target_eq_ok.mp h
  have hrequest : requestPath.toList = '/' :: ("vedsdk".toList ++ '/' :: "certificates/request".toList) := by
    decide
  have hretrieve : retrievePath.toList = '/' :: ("vedsdk".toList ++ '/' :: "certificates/retrieve".toList) := by
    decide
  have hweb : Url.isSpecial read.scheme = true ∧ read.scheme ≠ "file" := by
    rcases hscheme with hscheme | hscheme
    · rw [hscheme]
      decide
    · rw [hscheme]
      decide
  have hbase (path : String) : t.base ++ path = String.ofList (t.base.toList ++ path.toList) := by
    rw [String.ofList_append, String.ofList_toList, String.ofList_toList]
  rw [hbase, hrequest] at hread
  have hvisible : Url.IsVisible ('/' :: ("vedsdk".toList ++ '/' :: "certificates/retrieve".toList)) :=
    Url.isVisible_of_all (by decide)
  have hfirst : ∀ c ∈ "vedsdk".toList.head?, Url.isSlash true c = false := by
    intro c hc
    obtain rfl : 'v' = c := Option.some.inj hc
    rfl
  obtain ⟨read', hread', hscheme', hhost'⟩ := Url.parse_web hfirst (by decide)
    (Url.isVisible_of_all (by decide))
    hvisible hread hweb.1 hweb.2
  rw [← hretrieve, ← hbase] at hread'
  exact ⟨_, target_eq_ok.mpr ⟨read', hread', by rwa [hhost'], hheader, by rwa [hscheme'], rfl⟩⟩

end CertEnroll.Tpp
