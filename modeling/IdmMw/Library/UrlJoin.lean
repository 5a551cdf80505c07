import IdmMw.Library.UrlText

/-!
# Paths behind an address

A path is written behind the text of a URL of the web, without the slashes that the text ends with.

* `RejectsBlanks`: what a platform does with a blank in a domain;
* `readAuthority_blanks`: no authority ends in blanks;
* `parse_joined`: where the longer text is a URL, it has the scheme and the authority of the URL.
-/

namespace Url

variable {toAscii : List UInt8 → Option (List Char)} {scheme text more blanks : List Char}

/-- `text.replace(/\/+$/, '')`. -/
def withoutEndSlashes (text : List Char) : List Char := (text.reverse.dropWhile (· = '/')).reverse

/-- A blank in a domain is not mapped to anything else, and no domain has one. -/
def RejectsBlanks (toAscii : List UInt8 → Option (List Char)) : Prop :=
  ∀ bytes domain, toAscii bytes = some domain → (∃ b ∈ bytes, b ≤ 0x20) →
    domain.any forbiddenDomainSet = true

/-- A domain of ASCII characters, in lower case. -/
def asciiDomain (bytes : List UInt8) : Option (List Char) :=
  if bytes.all (· < 0x80) then some (bytes.map fun b => (Char.ofNat b.toNat).toLower) else none

theorem rejectsBlanks_asciiDomain : RejectsBlanks asciiDomain := by
  rintro bytes domain h ⟨b, hmem, hb⟩
  have hforbidden : ∀ n ≤ 0x20, forbiddenDomainSet (Char.ofNat n).toLower = true := by decide
  unfold asciiDomain at h
  split at h
  · obtain rfl := Option.some.inj h
    exact List.any_eq_true.2 ⟨_, List.mem_map_of_mem hmem, hforbidden _ hb⟩
  · cases h

/-- Blanks that are left when tabs and line breaks are removed. -/
def Blanks (blanks : List Char) : Prop := ∀ c ∈ blanks, isBlank c = true

theorem ne_of_isBlank {c d : Char} (hc : isBlank c = true) (hd : isBlank d = false) : c ≠ d := by
  rintro rfl
  rw [hc] at hd
  cases hd

/-! ### Authorities -/

theorem splitPort_append {host : List Char} (hblanks : Blanks blanks) (inside : Bool) :
    splitPort inside (host ++ blanks) = match splitPort inside host with
      | (host, some port) => (host, some (port ++ blanks))
      | (host, none) => (host ++ blanks, none) := by
  have hnone : ∀ inside, splitPort inside blanks = (blanks, none) := by
    induction blanks with
    | nil => exact fun _ => rfl
    | cons c blanks ih =>
      intro inside
      have hcolon : c ≠ ':' := ne_of_isBlank (hblanks c List.mem_cons_self) (by decide)
      unfold splitPort
      rw [if_neg fun h => hcolon h.1, ih fun d hd => hblanks d (List.mem_cons_of_mem _ hd)]
  induction host generalizing inside with
  | nil => exact hnone inside
  | cons c host ih =>
    rw [List.cons_append]
    unfold splitPort
    split
    · rfl
    · rw [ih]
      cases splitPort (if c = '[' then true else if c = ']' then false else inside) host with
      | mk host port => cases port <;> rfl

/-- A blank is no part of an escape. -/
theorem mem_percentDecode {c : Char} (hc : isBlank c = true) (hmem : c ∈ text) :
    ∃ b ∈ percentDecode text, b ≤ 0x20 := by
  have hsmall : c.toNat ≤ 0x20 := of_decide_eq_true hc
  have hbyte : ∃ b ∈ String.utf8EncodeChar c, b ≤ 0x20 := by
    have hall : ∀ n ≤ 0x20, ∃ b ∈ String.utf8EncodeChar (Char.ofNat n), b ≤ 0x20 := by decide
    simpa using hall c.toNat hsmall
  have hhex : isHexDigit c = false := by
    have hall : ∀ n ≤ 0x20, isHexDigit (Char.ofNat n) = false := by decide
    simpa using hall c.toNat hsmall
  have hpercent : c ≠ '%' := ne_of_isBlank hc (by decide)
  induction text using percentDecode.induct with
  | case1 a b cs hdigits ih =>
    obtain ⟨ha, hb⟩ := Bool.and_eq_true_iff.1 hdigits
    have hcs : c ∈ cs := by
      simp only [List.mem_cons] at hmem
      rcases hmem with rfl | rfl | rfl | hmem
      · exact absurd rfl hpercent
      · rw [hhex] at ha
        cases ha
      · rw [hhex] at hb
        cases hb
      · exact hmem
    obtain ⟨byte, hmem', hle⟩ := ih hcs
    refine ⟨byte, ?_, hle⟩
    rw [percentDecode, if_pos hdigits]
    exact List.mem_cons_of_mem _ hmem'
  | case2 a b cs hdigits ih =>
    have hcs : c ∈ a :: b :: cs := (List.mem_cons.1 hmem).resolve_left hpercent
    obtain ⟨byte, hmem', hle⟩ := ih hcs
    refine ⟨byte, ?_, hle⟩
    rw [percentDecode, if_neg hdigits]
    exact List.mem_append_right _ hmem'
  | case3 d cs hne ih =>
    rw [percentDecode]
    · rcases List.mem_cons.1 hmem with rfl | hmem
      · obtain ⟨byte, hmem', hle⟩ := hbyte
        exact ⟨byte, List.mem_append_left _ hmem', hle⟩
      · obtain ⟨byte, hmem', hle⟩ := ih hmem
        exact ⟨byte, List.mem_append_right _ hmem', hle⟩
    · exact hne
  | case4 => exact absurd hmem List.not_mem_nil

/-- No domain ends in a blank. -/
theorem parseHost_blanks (hrejects : RejectsBlanks toAscii) (hblanks : Blanks blanks)
    (hne : blanks ≠ []) (host : List Char) : parseHost toAscii true (host ++ blanks) = none := by
  obtain ⟨c, hc⟩ := List.exists_mem_of_ne_nil _ hne
  have hblank := hblanks c hc
  have hdomain : parseDomain toAscii (host ++ blanks) = none := by
    unfold parseDomain
    cases hdomain : toAscii (percentDecode (host ++ blanks)) with
    | none => rfl
    | some domain =>
      have hany := hrejects _ _ hdomain (mem_percentDecode hblank (List.mem_append_right _ hc))
      exact if_pos (Or.inr hany)
  cases htext : host ++ blanks with
  | nil => exact absurd (List.append_eq_nil_iff.1 htext).2 hne
  | cons d text =>
    by_cases hd : d = '['
    · subst hd
      have hlast : ∀ {e}, text.getLast? = some e → isBlank e = true := by
        intro e he
        have hend : (host ++ blanks).getLast? = some e := by
          rw [htext, List.getLast?_cons, he]
          rfl
        rw [List.getLast?_append, List.getLast?_eq_some_getLast hne, Option.some_or] at hend
        exact hblanks e (Option.some.inj hend ▸ List.getLast_mem hne)
      unfold parseHost
      refine if_neg fun hbracket => ?_
      have hno := hlast hbracket
      exact absurd hno (by decide)
    · rw [htext] at hdomain
      unfold parseHost
      split
      · next heq => exact absurd (List.cons.inj heq).1 hd
      · exact hdomain

/-- No authority ends in a blank. -/
theorem readAuthority_blanks (hrejects : RejectsBlanks toAscii) (hspecial : isSpecial scheme = true)
    (hblanks : Blanks blanks) (hne : blanks ≠ []) (text : List Char) :
    readAuthority toAscii scheme (text ++ blanks) = none := by
  have hat : '@' ∉ blanks := fun h => absurd (hblanks _ h) (by decide)
  obtain ⟨credentials, hostPort, hsplit⟩ : ∃ credentials hostPort,
      splitCredentials (text ++ blanks) = (credentials, hostPort ++ blanks) := by
    have hbehind : ((text ++ blanks).reverse.takeWhile (· ≠ '@')).reverse =
        (text.reverse.takeWhile (· ≠ '@')).reverse ++ blanks := by
      rw [List.reverse_append, List.takeWhile_append_of_pos, List.reverse_append,
        List.reverse_reverse]
      intro c hc
      exact decide_eq_true fun heq => hat (heq ▸ List.mem_reverse.1 hc)
    unfold splitCredentials
    rw [hbehind]
    dsimp only
    split
    · exact ⟨_, _, rfl⟩
    · exact ⟨_, _, rfl⟩
  unfold readAuthority
  rw [hsplit]
  dsimp only
  rw [splitPort_append hblanks, hspecial]
  cases splitPort false hostPort with
  | mk host port =>
    cases port with
    | none =>
      dsimp only
      rw [parseHost_blanks hrejects hblanks hne]
      split
      · rfl
      · split <;> rfl
    | some port =>
      have hport : readPort scheme (port ++ blanks) = none := by
        obtain ⟨c, hc⟩ := List.exists_mem_of_ne_nil _ hne
        have hdigit : c.isDigit = false := by
          have hall : ∀ n ≤ 0x20, (Char.ofNat n).isDigit = false := by decide
          simpa using hall c.toNat (of_decide_eq_true (hblanks c hc))
        unfold readPort
        rw [if_neg fun h => hne (List.append_eq_nil_iff.1 h).2, if_neg]
        rintro ⟨hall, -⟩
        have hc' := List.all_eq_true.1 hall c (List.mem_append_right _ hc)
        rw [hdigit] at hc'
        cases hc'
      dsimp only [Option.getD_some]
      rw [hport]
      split
      · rfl
      · split
        · rfl
        · exact Option.bind_eq_none_iff.2 fun _ _ => rfl

/-! ### Texts that end in slashes -/

theorem readAuthority_nil (hspecial : isSpecial scheme = true) :
    readAuthority toAscii scheme [] = none := by
  unfold readAuthority
  rw [hspecial]
  rfl

/-- The authority does not reach beyond a slash, where there is more than slashes before it. -/
theorem authorityText_append_slash {rest : List Char} (hrest : ∃ c ∈ rest, isSlash scheme c = false)
    (more : List Char) :
    authorityText scheme (rest ++ '/' :: more) = authorityText scheme rest := by
  obtain ⟨c, hmem, hc⟩ := hrest
  have hne : rest.dropWhile (isSlash scheme) ≠ [] := by
    intro hnil
    have hall := List.dropWhile_eq_nil_iff.1 hnil c hmem
    rw [hc] at hall
    cases hall
  unfold authorityText
  rw [List.dropWhile_append, if_neg (by simpa [List.isEmpty_iff] using hne)]
  exact takeWhile_append_stop rfl _ _

/-- With blanks behind it, an authority is the same or none. -/
theorem authorityText_append {rest : List Char} (hrest : ∃ c ∈ rest, isSlash scheme c = false)
    (hblanks : Blanks blanks) :
    authorityText scheme (rest ++ blanks) = authorityText scheme rest ∨
      authorityText scheme (rest ++ blanks) = authorityText scheme rest ++ blanks := by
  obtain ⟨c, hmem, hc⟩ := hrest
  have hne : rest.dropWhile (isSlash scheme) ≠ [] := by
    intro hnil
    have hall := List.dropWhile_eq_nil_iff.1 hnil c hmem
    rw [hc] at hall
    cases hall
  unfold authorityText
  rw [List.dropWhile_append, if_neg (by simpa [List.isEmpty_iff] using hne), List.takeWhile_append]
  split
  · next hlength =>
    refine Or.inr (congrArg₂ _ ?_ ?_)
    · exact (List.IsPrefix.eq_of_length (List.takeWhile_prefix _) hlength).symm
    · refine List.takeWhile_eq_self_iff.2 fun d hd => ?_
      have hall : ∀ n ≤ 0x20, isPathEnd (Char.ofNat n) = false ∧ Char.ofNat n ≠ '/' ∧
          Char.ofNat n ≠ '\\' := by decide
      have hchar := hall d.toNat (of_decide_eq_true (hblanks d hd))
      rw [Char.ofNat_toNat] at hchar
      simp [isAuthorityEnd, isSlash, hchar.1, hchar.2.1, hchar.2.2]
  · exact Or.inl rfl

/-- A text that another follows may end in blanks that are taken off at the end of a text. -/
theorem cleanStart_eq (text : List Char) :
    ∃ blanks, Blanks blanks ∧ cleanStart text = clean text ++ blanks := by
  obtain ⟨rest, hrest⟩ : ∃ rest, rest = text.dropWhile isBlank := ⟨_, rfl⟩
  have hsplit : rest = (rest.reverse.dropWhile isBlank).reverse ++
      (rest.reverse.takeWhile isBlank).reverse := by
    rw [← List.reverse_append, List.takeWhile_append_dropWhile, List.reverse_reverse]
  refine ⟨(rest.reverse.takeWhile isBlank).reverse.filter fun c => !(['\t', '\n', '\r'].contains c),
    fun c hc => ?_, ?_⟩
  · exact List.mem_takeWhile_imp (List.mem_reverse.1 (List.mem_filter.1 hc).1)
  · unfold cleanStart clean
    rw [← hrest, ← List.filter_append, ← hsplit]

/-- Behind nothing but slashes there is no authority. -/
theorem exists_not_slash {rest : List Char} {authority : Authority}
    (hspecial : isSpecial scheme = true)
    (h : readAuthority toAscii scheme (authorityText scheme rest) = some authority) :
    ∃ c ∈ rest, isSlash scheme c = false := by
  by_contra hall
  have hnil : rest.dropWhile (isSlash scheme) = [] := by
    refine List.dropWhile_eq_nil_iff.2 fun c hc => ?_
    by_contra hslash
    exact hall ⟨c, hc, Bool.eq_false_iff.2 hslash⟩
  unfold authorityText at h
  rw [hnil, List.takeWhile_nil, readAuthority_nil hspecial] at h
  cases h

/-- The text of the authority stays, or ends in blanks. -/
theorem authorityText_joined {rest : List Char} {authority : Authority}
    (hspecial : isSpecial scheme = true) (hblanks : Blanks blanks)
    (h : readAuthority toAscii scheme (authorityText scheme rest) = some authority)
    (more : List Char) :
    authorityText scheme (rest ++ blanks ++ '/' :: more) = authorityText scheme rest ∨
      authorityText scheme (rest ++ blanks ++ '/' :: more) = authorityText scheme rest ++ blanks := by
  obtain ⟨c, hmem, hc⟩ := exists_not_slash hspecial h
  rw [authorityText_append_slash ⟨c, List.mem_append_left _ hmem, hc⟩]
  exact authorityText_append ⟨c, hmem, hc⟩ hblanks

/-- A path behind an address that may end in slashes. -/
theorem parse_joined (hrejects : RejectsBlanks toAscii) {base url : Url}
    (hweb : isWeb base.scheme = true) (hbase : parse toAscii text none = some base)
    (hurl : parse toAscii (withoutEndSlashes text ++ '/' :: more) none = some url) :
    url.scheme = base.scheme ∧ url.authority = base.authority := by
  have hspecial : isSpecial base.scheme = true := (Bool.and_eq_true_iff.1 hweb).1
  obtain ⟨restUrl, hreadUrl⟩ := scheme_of_parse hurl
  obtain ⟨restBase, hreadBase⟩ := scheme_of_parse hbase
  have hbaseWeb := hbase
  rw [parse_web hreadBase hweb] at hbaseWeb
  obtain ⟨authority, hauthority, hbaseUrl⟩ := Option.map_eq_some_iff.1 hbaseWeb
  have hread := hreadUrl
  rw [clean_append_slash] at hread
  obtain ⟨rest, hread, hrest⟩ := readScheme_of_append_slash hread
  -- the text is what is left of it and the slashes
  have htext : text = withoutEndSlashes text ++ (text.reverse.takeWhile (· = '/')).reverse := by
    unfold withoutEndSlashes
    rw [← List.reverse_append, List.takeWhile_append_dropWhile, List.reverse_reverse]
  suffices h : url.scheme = base.scheme ∧ ∀ found,
      readAuthority toAscii base.scheme (authorityText base.scheme restUrl) = some found →
        found = authority by
    obtain ⟨hscheme, hfound⟩ := h
    refine ⟨hscheme, ?_⟩
    rw [hscheme] at hreadUrl
    rw [parse_web hreadUrl hweb] at hurl
    obtain ⟨found, hread', hurl⟩ := Option.map_eq_some_iff.1 hurl
    have hsame := hfound found hread'
    rw [← hurl, ← hbaseUrl, hsame]
    rfl
  cases hslashes : (text.reverse.takeWhile (· = '/')).reverse with
  | nil =>
    rw [hslashes, List.append_nil] at htext
    obtain ⟨blanks, hblanks, hclean⟩ := cleanStart_eq text
    rw [← htext, hclean] at hread
    obtain ⟨hscheme, hrest'⟩ := Prod.mk.inj (Option.some.inj
      (hread.symm.trans (readScheme_append hreadBase blanks)))
    refine ⟨hscheme, fun found hfound => ?_⟩
    rw [hrest, hrest'] at hfound
    rcases authorityText_joined hspecial hblanks hauthority (cleanEnd more) with hsame | hlonger
    · rw [hsame, hauthority] at hfound
      exact (Option.some.inj hfound).symm
    · by_cases hnil : blanks = []
      · rw [hlonger, hnil, List.append_nil, hauthority] at hfound
        exact (Option.some.inj hfound).symm
      · rw [hlonger, readAuthority_blanks hrejects hspecial hblanks hnil] at hfound
        cases hfound
  | cons c tail =>
    have hall : ∀ d ∈ c :: tail, d = '/' := by
      intro d hd
      rw [← hslashes] at hd
      exact of_decide_eq_true (@List.mem_takeWhile_imp _ (fun d : Char => decide (d = '/')) _ _
        (List.mem_reverse.1 hd))
    obtain rfl := hall c List.mem_cons_self
    have hend : ∀ d ∈ cleanEnd tail, d = '/' := by
      intro d hd
      have hd := List.mem_reverse.1 (List.mem_filter.1 hd).1
      exact hall d (List.mem_cons_of_mem _
        (List.mem_reverse.1 ((List.dropWhile_suffix _).subset hd)))
    rw [hslashes] at htext
    have hreadText := hreadBase
    rw [htext, clean_append_slash] at hreadText
    obtain ⟨rest', hread', hrest'⟩ := readScheme_of_append_slash hreadText
    obtain ⟨hscheme, rfl⟩ := Prod.mk.inj (Option.some.inj (hread.symm.trans hread'))
    refine ⟨hscheme, fun found hfound => ?_⟩
    rw [hrest'] at hauthority
    obtain ⟨d, hmem, hd⟩ := exists_not_slash hspecial hauthority
    have hmem : d ∈ rest := by
      refine (List.mem_append.1 hmem).resolve_right fun hmem => ?_
      have hslash : d = '/' := by
        rcases List.mem_cons.1 hmem with rfl | hmem
        · rfl
        · exact hend d hmem
      subst hslash
      cases hd
    rw [authorityText_append_slash ⟨d, hmem, hd⟩] at hauthority
    rw [hrest, authorityText_append_slash ⟨d, hmem, hd⟩, hauthority] at hfound
    exact (Option.some.inj hfound).symm

end Url
