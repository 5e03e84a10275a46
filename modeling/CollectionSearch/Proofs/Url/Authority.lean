import CollectionSearch.Proofs.Text.Digits
import CollectionSearch.Proofs.Text.Split
import CollectionSearch.Url.Authority

/-!
# Hosts and ports as they are written

A host may be written as it is kept, as the name of a domain in lower case or as four decimal
numbers. It has none of the marks that part a URL then, so that it ends where a port or the rest of
the URL begins.

* `Host.IsPlain` : hosts that are written as they are kept.
* `IsPort` : the decimal numbers of a port.

**Main statements:** `Authority.ofChars_of_isPlain` says that host and port are read as they are
written, less the port that is the usual one.
-/

namespace CollectionSearch

/-! ## Hosts -/

namespace Host

theorem not_mem_domainMarks {c : Char} (h : isDomainChar c = true) : c ∉ domainMarks := by
  simp only [isDomainChar, Bool.and_eq_true, Bool.not_eq_true', List.contains_eq_mem,
    decide_eq_false_iff_not] at h
  exact h.2

theorem lt_toNat_of_isDomainChar {c : Char} (h : isDomainChar c = true) : 32 < c.toNat := by
  simp only [isDomainChar, Bool.and_eq_true, decide_eq_true_eq] at h
  exact h.1.1

/-- A character that a name may have is none of its marks. -/
theorem ne_of_isDomainChar {c mark : Char} (h : isDomainChar c = true)
    (hmark : mark ∈ domainMarks) : c ≠ mark := by
  rintro rfl
  exact not_mem_domainMarks h hmark

theorem isDomainChar_of_isDigit {c : Char} (h : c.isDigit = true) : isDomainChar c = true := by
  have hmarks : domainMarks.any Char.isDigit = false := by decide
  have hmem : c ∉ domainMarks := fun hmem => List.any_eq_false.mp hmarks c hmem h
  have hrange : 48 ≤ c.toNat ∧ c.toNat ≤ 57 := by
    simpa [Char.isDigit, UInt32.le_iff_toNat_le] using h
  simp only [isDomainChar, Bool.and_eq_true, decide_eq_true_eq, Bool.not_eq_true',
    List.contains_eq_mem, decide_eq_false_iff_not]
  exact ⟨⟨by omega, by omega⟩, hmem⟩

/-- The text of a number is made of digits. -/
theorem isDomainChar_of_mem_toString (n : Nat) :
    ∀ c ∈ (toString n).toList, isDomainChar c = true := by
  intro c hc
  rw [Nat.toString_eq_repr, Nat.toList_repr] at hc
  exact isDomainChar_of_isDigit (Nat.isDigit_of_mem_toDigits (by decide) (by decide) hc)

/-- The text of an IPv4 address is made of digits and dots. -/
theorem isDomainChar_of_mem_ipv4 (a : Ipv4) : ∀ c ∈ a.text.toList, isDomainChar c = true := by
  refine Text.intercalate_closed (P := fun s => ∀ c ∈ s.toList, isDomainChar c = true) ?_ ?_ ?_ ?_
  · simp
  · intro s t hs ht c hc
    rw [String.toList_append, List.mem_append] at hc
    exact hc.elim (hs c) (ht c)
  · exact List.all_eq_true.mp (by decide)
  · intro s hs
    obtain ⟨place, -, rfl⟩ := List.mem_map.mp hs
    exact isDomainChar_of_mem_toString _

/-- Brackets hold IPv6 addresses only. -/
theorem eq_ipv6_of_ofBracketed {cs : List Char} {h : Host} (hcs : ofBracketed cs = .ok h) :
    ∃ a, h = .ipv6 a := by
  unfold ofBracketed at hcs
  split at hcs
  · split at hcs
    · cases hcs
      exact ⟨_, rfl⟩
    · cases hcs
  · cases hcs

/-- Other hosts have only characters that the name of a domain may have. -/
theorem isDomainChar_of_mem_ofDomain {cs : List Char} {h : Host} (hcs : ofDomain cs = .ok h)
    (hno : ∀ a, h ≠ .ipv6 a) : ∀ c ∈ h.text.toList, isDomainChar c = true := by
  unfold ofDomain at hcs
  split at hcs
  · obtain ⟨a, rfl⟩ := eq_ipv6_of_ofBracketed hcs
    exact absurd rfl (hno a)
  · rcases hname : domainName cs with e | name
    · rw [hname] at hcs
      cases hcs
    · rw [hname] at hcs
      change (if Ipv4.endsInNumber name = true then _ else _) = _ at hcs
      split at hcs
      · split at hcs
        · cases hcs
          exact isDomainChar_of_mem_ipv4 _
        · cases hcs
      · cases hcs
        rw [text, String.toList_ofList]
        exact isDomainChar_of_mem hname

/-- Whether a text is the name of a domain or an IPv4 address that is kept as it is. -/
structure IsPlain (host : String) : Prop where
  /-- There is a host. -/
  nonempty : host ≠ ""
  /-- It is kept as it is, and is no IPv6 address. -/
  kept : ∃ h, ofDomain host.toList = .ok h ∧ h.text = host ∧ ∀ a, h ≠ .ipv6 a

/-- Such a text has only characters that the name of a domain may have. -/
theorem IsPlain.isDomainChar {host : String} (h : IsPlain host) :
    ∀ c ∈ host.toList, Host.isDomainChar c = true := by
  obtain ⟨kept, hkept, rfl, hno⟩ := h.kept
  exact isDomainChar_of_mem_ofDomain hkept hno

end Host

/-! ## Ports -/

/-- Whether a text is a decimal number for a port. Zeros may stand in front. -/
structure IsPort (text : String) (n : UInt16) : Prop where
  /-- There is a digit. -/
  nonempty : text ≠ ""
  /-- The digits stand for the port. -/
  value : Text.ofDigits? 10 text.toList = some n.toNat

namespace Authority

/-- No text is no port. -/
theorem portOf_nil (usual : Option Nat) : portOf usual [] = .ok none := rfl

/-- A port is read from its decimal number unless it is the usual one. -/
theorem portOf_of_isPort {text : String} {n : UInt16} (h : IsPort text n) (usual : Option Nat) :
    portOf usual text.toList = .ok (if usual = some n.toNat then none else some n) := by
  have hdigit := Text.isDigit_of_mem h.value
  have hsmall : ¬ 65536 ≤ n.toNat := Nat.not_le.mpr n.toNat_lt
  have hne := Text.isEmpty_toList_eq_false h.nonempty
  unfold portOf
  rw [List.takeWhile_eq_self_iff.mpr hdigit, List.dropWhile_eq_nil_iff.mpr hdigit]
  simp only [h.value, hsmall, if_false, hne, Bool.false_eq_true, false_or, UInt16.ofNat_toNat]
  split <;> rfl

/-! ## Authorities -/

/-- The port that stands after a host, with the colon in front of it. -/
def writtenPort : Option (List Char) → List Char
  | none => []
  | some text => ':' :: text

/-- A host without marks ends at the colon. -/
theorem splitPort_of_isDomainChar (port : Option (List Char)) :
    (host : List Char) → (∀ c ∈ host, Host.isDomainChar c = true) →
      splitPort false (host ++ writtenPort port) = (host, port)
  | [], _ => by cases port <;> rfl
  | c :: cs, h => by
      have ih := splitPort_of_isDomainChar port cs fun c hc => h c (List.mem_cons_of_mem _ hc)
      have hcolon : c ≠ ':' := Host.ne_of_isDomainChar (h c List.mem_cons_self) (by decide)
      have hbracket : c ≠ '[' := Host.ne_of_isDomainChar (h c List.mem_cons_self) (by decide)
      simp [splitPort, hcolon, hbracket, ih]

/-- A text without an `@` has no credentials. -/
theorem splitCredentials_of_not_mem {cs : List Char} (h : '@' ∉ cs) :
    splitCredentials cs = (none, cs) := by
  simp [splitCredentials, h]

/-- The characters of a host without marks and of a port do not end the authority. -/
theorem isEnd_eq_false {c : Char} (h : Host.isDomainChar c = true ∨ c = ':') :
    isEnd true c = false := by
  rcases h with h | rfl
  · have hne : ∀ mark ∈ Host.domainMarks, c ≠ mark := fun mark => Host.ne_of_isDomainChar h
    simp [isEnd, hne '/' (by decide), hne '?' (by decide), hne '#' (by decide),
      hne '\\' (by decide)]
  · decide

/-- **A host that is written as it is kept is read along with the port after it.** -/
theorem ofChars_of_isPlain {host : String} (hhost : Host.IsPlain host) {port : Option (List Char)}
    (hport : ∀ c ∈ port.getD [], c.isDigit = true) {rest : List Char}
    (hrest : ∀ c ∈ rest.head?, isEnd true c = true) (usual : Option Nat) :
    ∃ h, h.text = host ∧
      ofChars true usual (host.toList ++ writtenPort port ++ rest) =
        (portOf usual (port.getD [])).map fun port => { host := some h, port } := by
  obtain ⟨h, hkept, htext, -⟩ := hhost.kept
  have hplace : ∀ c ∈ host.toList ++ writtenPort port, Host.isDomainChar c = true ∨ c = ':' := by
    intro c hc
    rcases List.mem_append.mp hc with hc | hc
    · exact .inl (hhost.isDomainChar c hc)
    · cases port with
      | none => cases hc
      | some text =>
        rcases List.mem_cons.mp hc with rfl | hc
        · exact .inr rfl
        · exact .inl (Host.isDomainChar_of_isDigit (hport c hc))
  have hfront : (host.toList ++ writtenPort port ++ rest).takeWhile (fun c => !isEnd true c) =
      host.toList ++ writtenPort port := by
    rw [List.takeWhile_append_of_pos fun c hc => by rw [isEnd_eq_false (hplace c hc)]; rfl]
    cases rest with
    | nil => exact List.append_nil _
    | cons c cs => simp [hrest c rfl]
  have hat : '@' ∉ host.toList ++ writtenPort port := fun hmem => by
    rcases hplace _ hmem with hchar | hcolon
    · exact Host.not_mem_domainMarks hchar (by decide)
    · cases hcolon
  have hne := Text.isEmpty_toList_eq_false hhost.nonempty
  have hhostOf : hostOf true host.toList = .ok (some h) := by
    rw [hostOf, if_pos rfl, hne, if_neg Bool.false_ne_true, hkept]
    rfl
  refine ⟨h, htext, ?_⟩
  unfold ofChars
  simp only [hfront, splitCredentials_of_not_mem hat,
    splitPort_of_isDomainChar port _ hhost.isDomainChar, hhostOf]
  cases port with
  | none => rfl
  | some text =>
    rw [Option.getD_some]
    show (portOf usual text >>= fun port => _) = _
    cases portOf usual text <;> rfl

end Authority

end CollectionSearch
