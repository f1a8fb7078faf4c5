/-
BrowserScript.Proofs.SignIn.SiteOfHost — the host alone chooses the site.

An address can carry the name of another site in its user information, its port, its path, its query and
its fragment. Whoever searched it for the name of a known site would type credentials into a page of
somebody else.

* `WebAddress` is a written address by its parts.
* `parse_text`: reading the address takes the authority out, and `host?_authority` the host out of it.
* `domainOf_text`: what the site is chosen by is the host without capitals and without one `www.`.
* `find?_site_iff`: no host lies within the domains of two sites.
* Main statement: `siteFor_by_host`.
-/
import BrowserScript.Proofs.Text.Searching
import BrowserScript.SignIn.Site

namespace BrowserScript

/-! ## §1 Written addresses -/

/-- The parts of a written address; all but scheme and host may be missing. -/
structure AddressParts where
  scheme : List Char
  userInfo : Option (List Char)
  host : List Char
  port : Option (List Char)
  path : Option (List Char)
  query : Option (List Char)
  fragment : Option (List Char)

namespace AddressParts

/-- A part behind its mark, if there is one. -/
def behind (mark : Char) : Option (List Char) → List Char
  | none => []
  | some part => mark :: part

/-- The part before the host. -/
def userText : Option (List Char) → List Char
  | none => []
  | some part => part ++ ['@']

theorem mem_behind {mark c : Char} {part : Option (List Char)} :
    c ∈ behind mark part ↔ ∃ cs ∈ part, c = mark ∨ c ∈ cs := by
  cases part <;> simp [behind]

theorem mem_userText {c : Char} {part : Option (List Char)} :
    c ∈ userText part ↔ ∃ cs ∈ part, c ∈ cs ∨ c = '@' := by
  cases part <;> simp [userText]

/-- The host with the port behind it. -/
def hostAndPort (u : AddressParts) : List Char := u.host ++ behind ':' u.port

/-- The authority as it is written. -/
def authority (u : AddressParts) : List Char := userText u.userInfo ++ u.hostAndPort

/-- What is written behind the authority. -/
def tail (u : AddressParts) : List Char :=
  behind '/' u.path ++ (behind '?' u.query ++ behind '#' u.fragment)

/-- The address as it is written. -/
def chars (u : AddressParts) : List Char :=
  u.scheme ++ ':' :: '/' :: '/' :: (u.authority ++ u.tail)

theorem printed_of_all {u : AddressParts} (h : u.chars.all (fun c => 0x20 ≤ c.toNat && c.toNat ≤ 0x7e) = true) :
    ∀ c ∈ u.chars, 0x20 ≤ c.toNat ∧ c.toNat ≤ 0x7e := by
  simpa using h

end AddressParts

/-- An address in printable characters of ASCII whose parts can be told apart. Path, query and fragment may
hold any of them. -/
structure WebAddress extends AddressParts where
  scheme_valid : ∃ c rest, scheme = c :: rest ∧ c.isAlpha = true ∧ rest.all Address.isSchemeChar = true
  userInfo_free : ∀ part ∈ userInfo, ∀ c ∈ part, c ∉ ['/', '?', '#', '[', ']']
  host_free : ∀ c ∈ host, c ∉ ['/', '?', '#', '@', ':', '%', '[', ']']
  port_free : ∀ part ∈ port, ∀ c ∈ part, c ∉ ['/', '?', '#', '@', '[', ']']
  printed : ∀ c ∈ toAddressParts.chars, 0x20 ≤ c.toNat ∧ c.toNat ≤ 0x7e

namespace WebAddress

/-- The address as a text. -/
def text (u : WebAddress) : String := String.ofList u.chars

/-- The host without capitals and without one leading `www.`. -/
def bareHost (u : WebAddress) : List Char :=
  let host := u.host.map Char.toLower
  if "www.".toList <+: host then host.drop 4 else host

end WebAddress

/-! ## §2 Reading an address -/

namespace Address

open AddressParts

variable (u : WebAddress)

/-- In the authority there is no mark of a later part, and no bracket. -/
theorem authority_free : ∀ c ∈ u.authority, c ∉ ['/', '?', '#', '[', ']'] := by
  intro c hc
  simp only [AddressParts.authority, hostAndPort, List.mem_append, mem_userText, mem_behind] at hc
  rcases hc with ⟨part, huser, hc | rfl⟩ | hc | ⟨part, hport, rfl | hc⟩
  · exact u.userInfo_free part huser c hc
  · decide
  · exact fun hmark => u.host_free c hc ((by decide : ['/', '?', '#', '[', ']'] ⊆ _) hmark)
  · decide
  · exact fun hmark => u.port_free part hport c hc ((by decide : ['/', '?', '#', '[', ']'] ⊆ _) hmark)

/-- Behind the authority, the address ends or goes on with one of three marks. -/
theorem head?_tail : ∀ c ∈ u.tail.head?, c ∈ ['/', '?', '#'] := by
  simp only [tail]
  cases u.path <;> cases u.query <;> cases u.fragment <;> simp [behind]

theorem splitScheme_chars :
    splitScheme u.chars
      = (String.ofList (u.scheme.map Char.toLower), '/' :: '/' :: (u.authority ++ u.tail)) := by
  obtain ⟨c, rest, hscheme, hletter, hrest⟩ := u.scheme_valid
  have hcolon : ':' ∉ u.scheme := by
    rw [hscheme]
    intro hmem
    rcases List.mem_cons.mp hmem with rfl | hmem
    · exact absurd hletter (by decide)
    · exact absurd (List.all_eq_true.mp hrest _ hmem) (by decide)
  have hsplit := Text.splitAt?_append_cons hcolon ('/' :: '/' :: (u.authority ++ u.tail))
  rw [splitScheme, chars, hsplit, hscheme]
  simp [hletter, hrest]

theorem takeAuthority_tail : takeAuthority ('/' :: '/' :: (u.authority ++ u.tail)) = u.authority := by
  refine Text.takeWhile_append_stop ?_ ?_
  · intro c hc
    have hmark : c ∉ ['/', '?', '#'] := fun hmark => authority_free u c hc (List.mem_append_left _ hmark)
    simpa [and_assoc] using hmark
  · intro c hc
    have hmark : c = '/' ∨ c = '?' ∨ c = '#' := by simpa using head?_tail u c hc
    rcases hmark with rfl | rfl | rfl <;> rfl

/-- The host and the port are what follows the user information, also where it holds the mark itself. -/
theorem afterLast_authority : afterLast '@' u.authority = u.hostAndPort := by
  have hmark : '@' ∉ u.hostAndPort := by
    intro hc
    simp only [hostAndPort, List.mem_append, mem_behind] at hc
    rcases hc with hc | ⟨part, hport, hc | hc⟩
    · exact u.host_free _ hc (by decide)
    · exact absurd hc (by decide)
    · exact u.port_free part hport _ hc (by decide)
  have hscan : (u.hostAndPort.reverse ++ (userText u.userInfo).reverse).takeWhile (· != '@')
      = u.hostAndPort.reverse := by
    refine Text.takeWhile_append_stop ?_ ?_
    · intro c hc
      have hne : c ≠ '@' := by
        rintro rfl
        exact hmark (List.mem_reverse.mp hc)
      simpa using hne
    · cases u.userInfo <;> simp [userText]
  rw [afterLast, AddressParts.authority, List.reverse_append, hscan, List.reverse_reverse]

theorem splitAt?_bracket : Text.splitAt? '[' u.hostAndPort = none :=
  Text.splitAt?_eq_none (fun hc => authority_free u '[' (List.mem_append_right _ hc) (by decide))

theorem hostChars_authority : hostChars u.authority = u.host := by
  simp only [hostChars, afterLast_authority, splitAt?_bracket]
  refine Text.takeWhile_append_stop ?_ ?_
  · intro c hc
    have hne : c ≠ ':' := by
      rintro rfl
      exact u.host_free _ hc (by decide)
    simpa using hne
  · cases u.port <;> simp [behind]

/-- An authority without brackets passes. -/
theorem checkBrackets_authority : checkBrackets u.authority = .ok () := by
  have hopen : '[' ∉ u.authority := fun hc => authority_free u '[' hc (by decide)
  have hclose : ']' ∉ u.authority := fun hc => authority_free u ']' hc (by decide)
  simp [checkBrackets, hopen, hclose, bracketsAlone, afterLast_authority, splitAt?_bracket]

/-- In printable characters nothing is dropped before reading, and nothing hides a separator. -/
theorem parse_text : parse u.text
    = .ok ⟨String.ofList (u.scheme.map Char.toLower), String.ofList u.authority⟩ := by
  have hstart : u.chars.dropWhile (fun c => c.toNat ≤ 0x20) = u.chars := by
    obtain ⟨c, rest, hscheme, hletter, -⟩ := u.scheme_valid
    have hfirst : ¬ decide (c.toNat ≤ 0x20) = true := by
      intro hlow
      have hlow : c.toNat ≤ 0x20 := of_decide_eq_true hlow
      have hall : ∀ n ≤ 0x20, (Char.ofNat n).isAlpha = false := by decide
      have := hall c.toNat hlow
      rw [Char.ofNat_toNat, hletter] at this
      cases this
    rw [chars, hscheme]
    exact List.dropWhile_cons_of_neg hfirst
  have hkept : u.chars.filter (fun c => !(c == '\t' || c == '\r' || c == '\n')) = u.chars := by
    rw [List.filter_eq_self]
    intro c hc
    have hlow := (u.printed c hc).1
    have hne : ∀ d : Char, d.toNat < 0x20 → (c == d) = false := by
      intro d hd
      simp
      rintro rfl
      omega
    simp [hne]
  have hplain : u.authority.any hiddenSeparators.contains = false := by
    rw [List.any_eq_false]
    intro c hc hhidden
    have hhigh := (u.printed c (by simp [chars, hc])).2
    have hfar : hiddenSeparators.all (0x7e < ·.toNat) = true := by decide
    have hbeyond := List.all_eq_true.mp hfar c (by simpa using hhidden)
    exact absurd hhigh (by simpa using hbeyond)
  rw [parse, WebAddress.text, String.toList_ofList, hstart, hkept]
  simp only [splitScheme_chars, takeAuthority_tail, checkBrackets_authority, hplain]
  rfl

theorem isAscii_host : Text.IsAscii u.host := by
  intro c hc
  have := (u.printed c (by simp [chars, AddressParts.authority, hostAndPort, hc])).2
  omega

/-- The host of the address that was read. -/
theorem host?_authority (scheme : String) :
    (host? ⟨scheme, String.ofList u.authority⟩).getD "" = String.ofList (u.host.map Char.toLower) := by
  have hzone : Text.splitAt? '%' u.host = none :=
    Text.splitAt?_eq_none (fun hc => u.host_free '%' hc (by decide))
  simp only [host?, String.toList_ofList, hostChars_authority]
  split
  next hempty => simp [List.isEmpty_iff.mp hempty]
  next => simp [hzone, Text.lowerChars_ascii (isAscii_host u)]

end Address

/-- Lowering twice is lowering once. -/
theorem lower_lowered {cs : List Char} (h : Text.IsAscii cs) :
    Text.lower (String.ofList (cs.map Char.toLower)) = String.ofList (cs.map Char.toLower) := by
  have hall : ∀ n < 128, (Char.ofNat n).toLower.toNat < 128 ∧
      (Char.ofNat n).toLower.toLower = (Char.ofNat n).toLower := by decide
  have hchar : ∀ c ∈ cs, c.toLower.toNat < 128 ∧ c.toLower.toLower = c.toLower := by
    intro c hc
    simpa using hall c.toNat (h c hc)
  have hascii : Text.IsAscii (cs.map Char.toLower) := by
    intro c hc
    obtain ⟨d, hd, rfl⟩ := List.mem_map.mp hc
    exact (hchar d hd).1
  rw [Text.lower, String.toList_ofList, Text.lowerChars_ascii hascii, List.map_map]
  congr 1
  exact List.map_congr_left (fun c hc => (hchar c hc).2)

/-- What a site is chosen by is the host without capitals and without one `www.`. -/
theorem domainOf_text (u : WebAddress) : domainOf u.text = .ok (String.ofList u.bareHost) := by
  have hslashes : Text.contains u.text "://" = true := by
    rw [Text.contains, Text.occursIn_iff, WebAddress.text, String.toList_ofList, AddressParts.chars]
    exact ⟨u.scheme, u.authority ++ u.tail, by simp⟩
  rw [domainOf, if_pos hslashes, Address.parse_text]
  simp only [Except.map, Address.host?_authority, lower_lowered (Address.isAscii_host u)]
  simp only [dropWww, Text.startsWith, Text.dropFirst, List.isPrefixOf_iff_prefix, String.toList_ofList]
  rw [WebAddress.bareHost]
  split <;> rfl

/-! ## §3 Sites and their hosts -/

namespace SignIn

/-- Whether a host is that of a domain, or of a part of it: the domain behind a dot. -/
def Within (host domain : List Char) : Prop := host = domain ∨ '.' :: domain <:+ host

instance (host domain : List Char) : Decidable (Within host domain) :=
  inferInstanceAs (Decidable (_ ∨ _))

theorem inDomain_iff {host domain : String} :
    inDomain host domain = true ↔ Within host.toList domain.toList := by
  rw [inDomain, Bool.or_eq_true, Text.endsWith_iff, String.toList_append, Within, beq_iff_eq, String.ext_iff]
  rfl

theorem Within.suffix {host domain : List Char} (h : Within host domain) : domain <:+ host := by
  rcases h with rfl | h
  · exact List.suffix_rfl
  · exact (List.suffix_cons _ _).trans h

/-- No domain of a known site ends with that of another. -/
theorem sites_suffix : ∀ s ∈ sites, ∀ t ∈ sites, s.domain.toList <:+ t.domain.toList → s = t := by decide

/-- A host lies within the domain of one site at most. -/
theorem Within.site_unique {host : List Char} {s t : Site} (hs : s ∈ sites) (ht : t ∈ sites)
    (hhost : Within host s.domain.toList) (hhost' : Within host t.domain.toList) : s = t := by
  rcases List.suffix_or_suffix_of_suffix hhost.suffix hhost'.suffix with h | h
  · exact sites_suffix s hs t ht h
  · exact (sites_suffix t ht s hs h).symm

/-- So it does not matter in which order the sites are tried. -/
theorem find?_site_iff {host : String} {site : Site} :
    sites.find? (fun s => inDomain host s.domain) = some site ↔
      site ∈ sites ∧ Within host.toList site.domain.toList := by
  constructor
  · intro h
    have hwithin := List.find?_some h
    exact ⟨List.mem_of_find?_eq_some h, inDomain_iff.mp hwithin⟩
  · rintro ⟨hmem, hwithin⟩
    cases hfind : sites.find? (fun s => inDomain host s.domain) with
    | none => exact absurd (inDomain_iff.mpr hwithin) (List.find?_eq_none.mp hfind site hmem)
    | some other =>
      have hother := List.find?_some hfind
      rw [(inDomain_iff.mp hother).site_unique (List.mem_of_find?_eq_some hfind) hmem hwithin]

/-- The site of a domain, also for the host that is missing: no domain is empty. -/
theorem siteFor_of_domain {url host : String} (h : domainOf url = .ok host) :
    siteFor url = .ok (sites.find? (fun s => inDomain host s.domain)) := by
  have hempty : sites.find? (fun s => inDomain "" s.domain) = none := by decide
  rw [siteFor, h]
  by_cases hhost : host = ""
  · simp [Except.map, hhost, hempty]
  · simp [Except.map, hhost]

/-- The site of an address is the one whose domain its host lies within, and there is none where its host
lies within no domain; addresses of one host have one site, whatever else they say. -/
theorem siteFor_by_host (u : WebAddress) :
    (∀ site, siteFor u.text = .ok (some site) ↔
        site ∈ sites ∧ Within u.bareHost site.domain.toList) ∧
      (siteFor u.text = .ok none ↔ ∀ site ∈ sites, ¬ Within u.bareHost site.domain.toList) ∧
      ∀ v : WebAddress, v.host = u.host → siteFor v.text = siteFor u.text := by
  have hsite : ∀ v : WebAddress, siteFor v.text
      = .ok (sites.find? (fun s => inDomain (String.ofList v.bareHost) s.domain)) :=
    fun v => siteFor_of_domain (domainOf_text v)
  refine ⟨fun site => ?_, ?_, fun v hv => ?_⟩
  · rw [hsite u, Except.ok.injEq, find?_site_iff, String.toList_ofList]
  · rw [hsite u, Except.ok.injEq, List.find?_eq_none]
    simp only [inDomain_iff, String.toList_ofList]
  · rw [hsite u, hsite v, WebAddress.bareHost, WebAddress.bareHost, hv]

/-- A host that looks like a known one, in an address that names known sites in all its other parts. -/
def lookalike : WebAddress where
  scheme := "https".toList
  userInfo := some "github.com@accounts.google.com:pw".toList
  host := "NotGitHub.com".toList
  port := some "443:github.com".toList
  path := some "github.com/login@google.com".toList
  query := some "next=https://github.com/".toList
  fragment := some "@google.com".toList
  scheme_valid := ⟨'h', "ttps".toList, rfl, rfl, rfl⟩
  userInfo_free := by simp
  host_free := by simp
  port_free := by simp
  printed := AddressParts.printed_of_all (by decide +kernel)

/-- An address of nothing but a host. -/
def accounts : WebAddress where
  scheme := "HTTP".toList
  userInfo := none
  host := "WWW.Accounts.Google.com".toList
  port := none
  path := none
  query := none
  fragment := none
  scheme_valid := ⟨'H', "TTP".toList, rfl, rfl, rfl⟩
  userInfo_free := by simp
  host_free := by simp
  port_free := by simp
  printed := AddressParts.printed_of_all (by decide +kernel)

/-- The host that looks like a known one has no site, and what stands around it can go without changing
that; a part of a known domain has its site. -/
theorem siteFor_by_host_lookalike :
    siteFor lookalike.text = .ok none ∧
      (∃ v : WebAddress, v.userInfo = none ∧ v.host = lookalike.host ∧
        siteFor v.text = siteFor lookalike.text) ∧
      siteFor accounts.text = .ok (sites[1]) := by
  have hnone : siteFor lookalike.text = .ok none := (siteFor_by_host lookalike).2.1.mpr (by decide)
  let plain : WebAddress :=
    { lookalike with
      userInfo := none
      userInfo_free := by simp
      printed := AddressParts.printed_of_all (by decide +kernel) }
  have hsame : siteFor plain.text = siteFor lookalike.text := (siteFor_by_host lookalike).2.2 plain rfl
  exact ⟨hnone, ⟨plain, rfl, rfl, hsame⟩, ((siteFor_by_host accounts).1 _).mpr (by decide)⟩

end SignIn
end BrowserScript
