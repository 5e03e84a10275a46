import CollectionSearch.Client
import CollectionSearch.Proofs.Text.Trim
import CollectionSearch.Proofs.Url.Authority

/-!
# The node of a URL that is written out

A URL of a scheme, a host as it is kept, a port and a path names a node with that host. A port that
is the usual one of the scheme is not kept by a URL, and the node of a URL without a port has the
port 443 whatever the scheme. So the port 80 of the scheme `http` becomes 443, and every other port
is kept.

* `Url.written` : the text of such a URL.
* `Url.IsWritten` : whether a text is such a URL.

**Main statements:** `ClientConfig.node_of_isWritten` says what the node is and exactly when it has
the port of the URL. `ClientConfig.node_ne_localhost` shows the port that is replaced.
-/

namespace CollectionSearch

namespace Url

/-! ## Characters that count -/

theorem isMargin_eq_false {c : Char} (h : 32 < c.toNat) : isMargin c = false := by
  rw [isMargin, decide_eq_false_iff_not]
  omega

theorem isIgnored_eq_false {c : Char} (h : 32 < c.toNat) : isIgnored c = false := by
  have hne : ∀ d : Char, d.toNat ≤ 32 → c ≠ d := by
    rintro d hd rfl
    omega
  simp [isIgnored, hne '\t' (by decide), hne '\n' (by decide), hne '\r' (by decide)]

/-- Margins are taken away behind a text of characters that count. -/
theorem withoutMargins_of_append {s : String} {front rest : List Char}
    (hs : s.toList = front ++ rest) (hne : front ≠ []) (h : ∀ c ∈ front, 32 < c.toNat) :
    withoutMargins s = front ++ rest.rdropWhile isMargin := by
  obtain ⟨first, others, rfl⟩ := List.exists_cons_of_ne_nil hne
  have hmargin : ∀ c ∈ first :: others, isMargin c = false := fun c hc => isMargin_eq_false (h c hc)
  unfold withoutMargins
  rw [hs, List.cons_append, List.dropWhile_cons_of_neg (by simp [hmargin first List.mem_cons_self])]
  exact Text.rdropWhile_append_of_neg hmargin rest

theorem significant_append {front : List Char} (h : ∀ c ∈ front, 32 < c.toNat) (rest : List Char) :
    significant (front ++ rest) = front ++ significant rest := by
  unfold significant
  rw [List.filter_append, List.filter_eq_self.mpr]
  intro c hc
  rw [isIgnored_eq_false (h c hc)]
  rfl

theorem dropSignificant_append (rest : List Char) :
    (front : List Char) → (∀ c ∈ front, 32 < c.toNat) →
      dropSignificant front.length (front ++ rest) = rest
  | [], _ => by cases rest <;> rfl
  | c :: cs, h => by
      have ih := dropSignificant_append rest cs fun c hc => h c (List.mem_cons_of_mem _ hc)
      rw [List.length_cons, List.cons_append, dropSignificant,
        isIgnored_eq_false (h c List.mem_cons_self), if_neg Bool.false_ne_true, ih]

theorem lt_toNat_of_isEnd {c : Char} (h : Authority.isEnd true c = true) : 32 < c.toNat := by
  simp only [Authority.isEnd, Bool.true_and, Bool.or_eq_true, decide_eq_true_eq] at h
  rcases h with ((rfl | rfl) | rfl) | rfl <;> decide

/-- What is left of a path begins like the path. -/
theorem isEnd_head?_significant {path : List Char}
    (h : ∀ c ∈ path.head?, Authority.isEnd true c = true) :
    ∀ c ∈ (significant (path.rdropWhile isMargin)).head?, Authority.isEnd true c = true := by
  rcases path with _ | ⟨first, others⟩
  · simp [significant]
  · have hend := h first rfl
    have hcounts := lt_toNat_of_isEnd hend
    obtain ⟨rest, hrest⟩ := List.head?_eq_some_iff.mp
      (Text.head?_rdropWhile (isMargin_eq_false hcounts) others)
    have hkept : significant ([first] ++ rest) = [first] ++ significant rest :=
      significant_append (by simpa using hcounts) rest
    rw [hrest]
    intro c hc
    rw [← List.singleton_append, hkept] at hc
    cases hc
    exact hend

/-! ## URLs that are written out -/

/-- The text of a URL. -/
def written (scheme host : String) (port : Option String) (path : String) : String :=
  scheme ++ "://" ++ host ++ port.elim "" (":" ++ ·) ++ path

/-- Whether a text is a URL of HTTP with a host as it is kept. -/
structure IsWritten (url scheme host : String) (port : Option String) (path : String) : Prop where
  /-- The text is put together of its parts. -/
  eq : url = written scheme host port path
  /-- The scheme is one of HTTP. -/
  scheme : scheme = "http" ∨ scheme = "https"
  /-- The host is the name of a domain or an IPv4 address and is kept as it is. -/
  host : Host.IsPlain host
  /-- The path is empty or begins where a host and a port end. -/
  path : ∀ c ∈ path.toList.head?, Authority.isEnd true c = true

/-- Host and port of such a text, behind the slashes. -/
def place (host : String) (port : Option String) : List Char :=
  host.toList ++ Authority.writtenPort (port.map String.toList)

theorem toList_written (scheme host : String) (port : Option String) (path : String) :
    (written scheme host port path).toList =
      (scheme.toList ++ [':'] ++ (['/', '/'] ++ place host port)) ++ path.toList := by
  cases port <;>
    simp [written, place, Authority.writtenPort, show "://".toList = [':', '/', '/'] from rfl,
      show ":".toList = [':'] from rfl]

/-- The schemes of HTTP are read as they are written. -/
theorem schemeOf_append {scheme : String} (h : scheme = "http" ∨ scheme = "https")
    (rest : List Char) : schemeOf (scheme.toList ++ [':'] ++ rest) = some scheme := by
  rcases h with rfl | rfl <;> rfl

theorem lt_toNat_of_mem_scheme {scheme : String} (h : scheme = "http" ∨ scheme = "https") :
    ∀ c ∈ scheme.toList ++ [':'], 32 < c.toNat := by
  have hall : (scheme.toList ++ [':']).all (fun c => 32 < c.toNat) = true := by
    rcases h with rfl | rfl <;> decide
  intro c hc
  exact of_decide_eq_true (List.all_eq_true.mp hall c hc)

section place

variable {host : String} {port : Option String} (hhost : Host.IsPlain host)

include hhost

/-- A host as it is kept does not begin with a slash. -/
theorem dropWhile_isSlash_place (rest : List Char) :
    (['/', '/'] ++ place host port ++ rest).dropWhile isSlash = place host port ++ rest := by
  rcases hchars : host.toList with _ | ⟨first, others⟩
  · exact absurd (String.toList_eq_nil_iff.mp hchars) hhost.nonempty
  · have hfirst : Host.isDomainChar first = true :=
      hhost.isDomainChar first (hchars ▸ List.mem_cons_self)
    have hslash : isSlash first = false := by
      simp [isSlash, Host.ne_of_isDomainChar hfirst (show '/' ∈ Host.domainMarks by decide),
        Host.ne_of_isDomainChar hfirst (show '\\' ∈ Host.domainMarks by decide)]
    rw [List.append_assoc, List.dropWhile_append_of_pos (by simp [isSlash]), place, hchars,
      List.cons_append, List.cons_append, List.dropWhile_cons_of_neg (by simp [hslash])]

variable (hport : ∀ c ∈ (port.getD "").toList, c.isDigit = true)

include hport

/-- The slashes, the host and the port are made of characters that count. -/
theorem lt_toNat_of_mem_place : ∀ c ∈ ['/', '/'] ++ place host port, 32 < c.toNat := by
  have hslashes : ∀ c ∈ ['/', '/'], 32 < c.toNat := by
    intro c hc
    have hslash : c = '/' := by simpa using hc
    subst hslash
    decide
  refine List.forall_mem_append.mpr ⟨hslashes, List.forall_mem_append.mpr ⟨?_, ?_⟩⟩
  · intro c hc
    exact Host.lt_toNat_of_isDomainChar (hhost.isDomainChar c hc)
  · intro c hc
    cases port with
    | none => cases hc
    | some text =>
      rcases List.mem_cons.mp hc with rfl | hc
      · decide
      · exact Host.lt_toNat_of_isDomainChar (Host.isDomainChar_of_isDigit (hport c hc))

variable {scheme : String} (hscheme : scheme = "http" ∨ scheme = "https")

include hscheme

/-- The margins of a URL that is written out are those of its path. -/
theorem withoutMargins_written (path : String) :
    withoutMargins (written scheme host port path) =
      (scheme.toList ++ [':']) ++
        (['/', '/'] ++ place host port ++ path.toList.rdropWhile isMargin) := by
  rw [← List.append_assoc]
  refine withoutMargins_of_append (toList_written ..) (by simp) ?_
  exact List.forall_mem_append.mpr
    ⟨lt_toNat_of_mem_scheme hscheme, lt_toNat_of_mem_place hhost hport⟩

/-- The authority begins after the slashes. -/
theorem authorityOf_place (rest : List Char) :
    authorityOf scheme (['/', '/'] ++ place host port ++ rest) =
      Authority.ofChars true (usualPort scheme) (place host port ++ significant rest) := by
  obtain ⟨usual, husual⟩ : ∃ usual, usualPort scheme = some usual := by
    rcases hscheme with rfl | rfl <;> exact ⟨_, rfl⟩
  rw [authorityOf, husual]
  dsimp only
  rw [significant_append (lt_toNat_of_mem_place hhost hport), dropWhile_isSlash_place hhost]

end place

/-- **A URL that is written out is read into its parts.** -/
theorem parse_of_isWritten {url scheme host path : String} {port : Option String}
    (h : IsWritten url scheme host port path)
    (hport : ∀ c ∈ (port.getD "").toList, c.isDigit = true) :
    ∃ kept, Host.text kept = host ∧
      parse url = (Authority.portOf (usualPort scheme) (port.getD "").toList).map fun port =>
        { scheme, authority := { host := some kept, port } } := by
  obtain ⟨rfl, hscheme, hhost, hpath⟩ := h
  have hchars : (port.map String.toList).getD [] = (port.getD "").toList := by
    cases port <;> rfl
  obtain ⟨kept, htext, hread⟩ := Authority.ofChars_of_isPlain hhost (by rwa [hchars])
    (isEnd_head?_significant hpath) (usualPort scheme)
  refine ⟨kept, htext, ?_⟩
  have hfront := lt_toNat_of_mem_scheme hscheme
  have hlength : scheme.length + 1 = (scheme.toList ++ [':']).length := by
    rw [List.length_append, String.length_toList, List.length_singleton]
  unfold parse
  simp only [withoutMargins_written hhost hport hscheme, significant_append hfront,
    schemeOf_append hscheme]
  rw [hlength, dropSignificant_append _ _ hfront, authorityOf_place hhost hport hscheme, place,
    hread, hchars]
  cases Authority.portOf (usualPort scheme) (port.getD "").toList <;> rfl

end Url

/-! ## Nodes -/

/-- The node of a URL that is written out has the port that is kept, else the port 443. -/
theorem Node.ofUrl_of_isWritten {url scheme host path : String} {port : Option String}
    (h : Url.IsWritten url scheme host port path)
    (hport : ∀ c ∈ (port.getD "").toList, c.isDigit = true) {kept : Option UInt16}
    (hkept : Authority.portOf (Url.usualPort scheme) (port.getD "").toList = .ok kept) :
    Node.ofUrl url = .ok ⟨host, kept.getD Node.usualPort, scheme⟩ := by
  obtain ⟨named, rfl, hparse⟩ := Url.parse_of_isWritten h hport
  have hne : named.text.isEmpty = false := by
    rw [String.isEmpty_eq_false_iff]
    exact h.host.nonempty
  rw [hkept] at hparse
  unfold Node.ofUrl
  rw [hparse]
  simp [Except.map, hne]

namespace ClientConfig

variable {c : ClientConfig} {scheme host path : String}

/-- Without a port the node has the port 443. -/
theorem node_of_isWritten_of_no_port {port : Option String}
    (h : Url.IsWritten c.url scheme host port path) (hport : port.getD "" = "") :
    c.node = .ok ⟨host, Node.usualPort, scheme⟩ := by
  have hkept : Authority.portOf (Url.usualPort scheme) (port.getD "").toList = .ok none := by
    rw [hport]
    exact Authority.portOf_nil _
  have hdigits : ∀ d ∈ (port.getD "").toList, d.isDigit = true := by simp [hport]
  exact Node.ofUrl_of_isWritten h hdigits hkept

/-- A port is kept unless it is the usual one of the scheme. -/
theorem node_of_isWritten_of_isPort {text : String} {n : UInt16}
    (h : Url.IsWritten c.url scheme host (some text) path) (hport : IsPort text n) :
    c.node =
      .ok ⟨host, if scheme = "http" ∧ n = 80 then Node.usualPort else n, scheme⟩ := by
  have hkept := Authority.portOf_of_isPort hport (Url.usualPort scheme)
  have hnode : c.node = _ := Node.ofUrl_of_isWritten h (Text.isDigit_of_mem hport.value) hkept
  rw [hnode]
  -- the usual port is not kept, and is 443 for one of the schemes only
  rcases h.scheme with rfl | rfl
  · by_cases hn : n = 80
    · subst hn
      rfl
    · have hne : some 80 ≠ some n.toNat := fun heq =>
        hn (UInt16.toNat_inj.mp (Option.some.inj heq).symm)
      rw [show Url.usualPort "http" = some 80 from rfl, if_neg hne, if_neg fun hlost => hn hlost.2]
      rfl
  · have hsecure : ¬ ("https" = "http" ∧ n = 80) := fun hlost => absurd hlost.1 (by decide)
    rw [if_neg hsecure]
    by_cases hn : n = Node.usualPort
    · subst hn
      rfl
    · have hne : some 443 ≠ some n.toNat := fun heq =>
        hn (UInt16.toNat_inj.mp (Option.some.inj heq).symm)
      rw [show Url.usualPort "https" = some 443 from rfl, if_neg hne]
      rfl

/-- **The port of a URL is the port of its node, except for the port 80 of HTTP without a secure
layer**, which becomes 443. So the port 443 is that of a URL without a port, of one that names it,
and of that one. -/
theorem node_of_isWritten {port : Option String}
    (h : Url.IsWritten c.url scheme host port path) :
    (∀ text n, port = some text → IsPort text n →
      c.node = .ok ⟨host, if scheme = "http" ∧ n = 80 then Node.usualPort else n, scheme⟩ ∧
      (c.node = .ok ⟨host, n, scheme⟩ ↔ ¬ (scheme = "http" ∧ n = 80)) ∧
      ((∃ node, c.node = .ok node ∧ node.port = Node.usualPort) ↔
        n = Node.usualPort ∨ scheme = "http" ∧ n = 80)) ∧
    (port = none ∨ port = some "" → c.node = .ok ⟨host, Node.usualPort, scheme⟩) := by
  constructor
  · rintro text n rfl hport
    have hnode := node_of_isWritten_of_isPort h hport
    refine ⟨hnode, ?_, ?_⟩
    · rw [hnode]
      by_cases hlost : scheme = "http" ∧ n = 80
      · simp [hlost, Node.usualPort]
      · simp [hlost]
    · rw [hnode]
      by_cases hlost : scheme = "http" ∧ n = 80
      · simp [hlost]
      · simp [hlost]
  · intro hport
    refine node_of_isWritten_of_no_port h ?_
    rcases hport with rfl | rfl <;> rfl

/-- A URL of the own machine is written out. -/
theorem isWritten_localhost (port : Option String) :
    Url.IsWritten (Url.written "http" "localhost" port "") "http" "localhost" port "" where
  eq := rfl
  scheme := .inl rfl
  host := ⟨by decide, .name "localhost", rfl, rfl, fun _ h => by cases h⟩
  path := by simp

/-- The node of a URL with another port has that port, and the node of a URL without a port the port
443. -/
theorem node_of_isWritten_localhost :
    let c : ClientConfig := { url := "http://localhost:8108", apiKey := "key" }
    let c' : ClientConfig := { url := "http://localhost", apiKey := "key" }
    Url.IsWritten c.url "http" "localhost" (some "8108") "" ∧ IsPort "8108" 8108 ∧
      c.node = .ok ⟨"localhost", 8108, "http"⟩ ∧
      Url.IsWritten c'.url "http" "localhost" none "" ∧
      c'.node = .ok ⟨"localhost", 443, "http"⟩ := by
  intro c c'
  have hwritten : Url.IsWritten c.url "http" "localhost" (some "8108") "" :=
    isWritten_localhost (some "8108")
  have hwritten' : Url.IsWritten c'.url "http" "localhost" none "" := isWritten_localhost none
  have hport : IsPort "8108" 8108 := ⟨by decide, rfl⟩
  have hnode := ((node_of_isWritten hwritten).1 _ _ rfl hport).2.1.mpr (by decide)
  exact ⟨hwritten, hport, hnode, hwritten', (node_of_isWritten hwritten').2 (.inl rfl)⟩

/-- **A URL of HTTP that names the port 80 has a node with the port 443.** -/
theorem node_ne_localhost :
    let c : ClientConfig := { url := "http://localhost:80", apiKey := "key" }
    Url.IsWritten c.url "http" "localhost" (some "80") "" ∧ IsPort "80" 80 ∧
      c.node = .ok ⟨"localhost", 443, "http"⟩ ∧ c.node ≠ .ok ⟨"localhost", 80, "http"⟩ := by
  intro c
  have hwritten : Url.IsWritten c.url "http" "localhost" (some "80") "" :=
    isWritten_localhost (some "80")
  have hport : IsPort "80" 80 := ⟨by decide, rfl⟩
  have hnode : c.node = .ok ⟨"localhost", 443, "http"⟩ :=
    node_of_isWritten_of_isPort hwritten hport
  refine ⟨hwritten, hport, hnode, ?_⟩
  rw [hnode]
  intro h
  cases h

end ClientConfig

end CollectionSearch
