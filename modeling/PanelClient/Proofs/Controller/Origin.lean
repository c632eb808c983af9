import PanelClient.Controller.Importer

/-!
# Origins

What is logged of a subscription is what stands before its path, query and fragment
(`Importer.IsOrigin`), as long as the first `://` of the address belongs to its scheme. Where it is
part of the path, the query or the fragment, the log tells them up to there
(`Importer.isOrigin_origin_iff`).
-/

namespace PanelClient.Importer

/-- What stands between the scheme and the host of an address. -/
def separator : List Char := [':', '/', '/']

/-- The characters before the first one that ends a host. -/
def hostPart (cs : List Char) : List Char := cs.takeWhile fun c => !endsHost c

/-- No character of the list ends a host. -/
def IsHostPart (cs : List Char) : Prop := ∀ c ∈ cs, endsHost c = false

/-- The second list is the first without path, query and fragment. -/
inductive IsOrigin : List Char → List Char → Prop
  | absolute {scheme rest : List Char} (hscheme : IsHostPart scheme) :
    IsOrigin (scheme ++ separator ++ rest) (scheme ++ separator ++ hostPart rest)
  | relative {url : List Char}
      (hscheme : ∀ scheme rest, url = scheme ++ separator ++ rest → ¬IsHostPart scheme) :
    IsOrigin url (hostPart url)

/-- The list is these two with the first separator between them. -/
structure SplitsAt (url before after : List Char) : Prop where
  eq : url = before ++ separator ++ after
  first : ∀ left right, url = left ++ separator ++ right → before.length ≤ left.length

section Splitting

variable {url scheme before after rest : List Char}

theorem SplitsAt.unique (h : SplitsAt url before after) (hother : SplitsAt url scheme rest) :
    before = scheme ∧ after = rest := by
  have hlength : before.length = scheme.length :=
    Nat.le_antisymm (h.first _ _ hother.eq) (hother.first _ _ h.eq)
  have heq := h.eq.symm.trans hother.eq
  rw [List.append_assoc, List.append_assoc] at heq
  obtain ⟨hbefore, hrest⟩ := List.append_inj heq hlength
  exact ⟨hbefore, List.append_cancel_left hrest⟩

/-- A scheme that can be a host ends at the first separator, for there is no slash in it. -/
theorem splitsAt_of_isHostPart (hscheme : IsHostPart scheme)
    (heq : url = scheme ++ separator ++ rest) : SplitsAt url scheme rest where
  eq := heq
  first left right hleft := by
    refine Nat.le_of_not_lt fun hshorter => ?_
    rw [heq, List.append_assoc, List.append_assoc] at hleft
    obtain ⟨between, hsplit, hover⟩ :=
      (List.append_eq_append_iff.1 hleft).resolve_left (by
        rintro ⟨more, hmore, -⟩
        rw [hmore, List.length_append] at hshorter
        omega)
    -- The separator begins within the scheme, so that its first slash stands there or at the colon.
    rcases between with _ | ⟨c, _ | ⟨d, more⟩⟩
    · rw [List.append_nil] at hsplit
      exact absurd (congrArg List.length hsplit) (Nat.ne_of_gt hshorter)
    · simp [separator] at hover
    · simp only [separator, List.cons_append, List.cons.injEq] at hover
      have hslash : endsHost d = false := hscheme d (by simp [hsplit])
      rw [← hover.2.1] at hslash
      exact absurd hslash (by decide)

theorem splitsAt_of_splitScheme? (h : splitScheme? url = some (scheme, rest)) :
    ∃ before, scheme = before ++ separator ∧ SplitsAt url before rest := by
  fun_induction splitScheme? url generalizing scheme with
  | case1 after =>
    cases h
    exact ⟨[], rfl, rfl, fun _ _ _ => Nat.zero_le _⟩
  | case2 c tail hnot ih =>
    obtain ⟨⟨inner, host⟩, hinner, heq⟩ := Option.map_eq_some_iff.1 h
    cases heq
    obtain ⟨before, rfl, htail, hfirst⟩ := ih hinner
    refine ⟨c :: before, rfl, by rw [htail]; rfl, fun left right hleft => ?_⟩
    cases left with
    | nil =>
      simp only [separator, List.nil_append, List.cons_append, List.cons.injEq] at hleft
      exact (hnot right hleft.1 hleft.2).elim
    | cons first more =>
      exact Nat.succ_le_succ (hfirst more right (List.cons.inj hleft).2)
  | case3 => cases h

theorem splitScheme?_eq_none (h : splitScheme? url = none) : ¬separator <:+: url := by
  fun_induction splitScheme? url with
  | case1 after => cases h
  | case2 c tail hnot ih =>
    rw [Option.map_eq_none_iff] at h
    rintro ⟨left, right, hleft⟩
    cases left with
    | nil =>
      simp only [separator, List.nil_append, List.cons_append, List.cons.injEq] at hleft
      exact hnot right hleft.1.symm hleft.2.symm
    | cons first more => exact ih h ⟨more, right, (List.cons.inj hleft).2⟩
  | case3 => simp [separator]

end Splitting

/-! ## The origin that is logged -/

section Origin

variable {url before after : List Char}

theorem isHostPart_hostPart (cs : List Char) : IsHostPart (hostPart cs) := by
  intro c hc
  have hall := List.all_eq_true.1 (List.all_takeWhile (p := fun c => !endsHost c) (l := cs)) c hc
  simpa using hall

theorem prefix_hostPart (cs : List Char) : hostPart cs <+: cs := List.takeWhile_prefix _

theorem SplitsAt.exists_of_infix (h : separator <:+: url) :
    ∃ before after, SplitsAt url before after := by
  cases hsplit : splitScheme? url with
  | none => exact absurd h (splitScheme?_eq_none hsplit)
  | some parts =>
    obtain ⟨before, -, hsplits⟩ := splitsAt_of_splitScheme? hsplit
    exact ⟨before, parts.2, hsplits⟩

/-- What is logged is told by the first separator, wherever it stands. -/
theorem toList_origin_of_splitsAt {url : String} (h : SplitsAt url.toList before after) :
    (origin url).toList = before ++ separator ++ hostPart after := by
  cases hsplit : splitScheme? url.toList with
  | none => exact absurd ⟨before, after, h.eq.symm⟩ (splitScheme?_eq_none hsplit)
  | some parts =>
    obtain ⟨scheme, rest⟩ := parts
    obtain ⟨first, rfl, hfirst⟩ := splitsAt_of_splitScheme? hsplit
    obtain ⟨rfl, rfl⟩ := hfirst.unique h
    simp only [origin, hsplit, String.toList_ofList, hostPart]

theorem toList_origin_of_no_separator {url : String} (h : ¬separator <:+: url.toList) :
    (origin url).toList = hostPart url.toList := by
  cases hsplit : splitScheme? url.toList with
  | none => simp only [origin, hsplit, String.toList_ofList, hostPart]
  | some parts =>
    obtain ⟨before, -, hsplits⟩ := splitsAt_of_splitScheme? hsplit
    exact absurd ⟨before, parts.2, hsplits.eq.symm⟩ h

theorem prefix_origin (url : String) : (origin url).toList <+: url.toList := by
  by_cases hinfix : separator <:+: url.toList
  · obtain ⟨before, after, hsplits⟩ := SplitsAt.exists_of_infix hinfix
    rw [toList_origin_of_splitsAt hsplits, hsplits.eq]
    exact (List.prefix_append_right_inj _).2 (prefix_hostPart after)
  · rw [toList_origin_of_no_separator hinfix]
    exact prefix_hostPart _

/-- An address has no more than one origin. -/
theorem IsOrigin.unique {origin other : List Char} (h : IsOrigin url origin)
    (hother : IsOrigin url other) : origin = other := by
  cases h with
  | absolute hscheme =>
    generalize heq : _ ++ separator ++ _ = url at hother
    cases hother with
    | absolute hsecond =>
      obtain ⟨rfl, rfl⟩ := (splitsAt_of_isHostPart hsecond rfl).unique
        (splitsAt_of_isHostPart hscheme heq.symm)
      rfl
    | relative hnone => exact absurd hscheme (hnone _ _ heq.symm)
  | relative hnone =>
    cases hother with
    | absolute hscheme => exact absurd hscheme (hnone _ _ rfl)
    | relative => rfl

/-- Up to the first slash of a separator that belongs to a scheme, nothing ends a host. -/
theorem hostPart_of_scheme {scheme : List Char} (hscheme : IsHostPart scheme) (rest : List Char) :
    hostPart (scheme ++ separator ++ rest) = scheme ++ [':'] := by
  rw [hostPart, List.append_assoc, List.takeWhile_append_of_pos]
  · rfl
  · intro c hc
    rw [hscheme c hc, Bool.not_false]

/-- An address whose host does not end with a colon has no scheme. -/
theorem isOrigin_hostPart (h : (hostPart url).getLast? ≠ some ':') :
    IsOrigin url (hostPart url) := by
  refine .relative fun scheme rest heq hscheme => ?_
  rw [heq, hostPart_of_scheme hscheme] at h
  simp at h

/-- If there is a separator at all, nothing that stands before it ends a host. -/
def KeepsScheme (url : List Char) : Prop :=
  separator <:+: url → ∃ scheme rest, IsHostPart scheme ∧ url = scheme ++ separator ++ rest

/-- What is logged of an address is a part of it from its start, but it is the origin only if no
separator stands behind the host. Otherwise it goes on up to that separator, and to what follows it.
Of addresses without such a separator, two with the same origin are logged alike. -/
theorem isOrigin_origin_iff (url : String) :
    (origin url).toList <+: url.toList ∧
      (IsOrigin url.toList (origin url).toList ↔ KeepsScheme url.toList) ∧
      (∀ before after, SplitsAt url.toList before after →
        (origin url).toList = before ++ separator ++ hostPart after) ∧
      ∀ (other profile : String) (shown : List Char),
        KeepsScheme url.toList → KeepsScheme other.toList →
        IsOrigin url.toList shown → IsOrigin other.toList shown →
          logging profile url = logging profile other := by
  have hiff (url : String) :
      IsOrigin url.toList (origin url).toList ↔ KeepsScheme url.toList := by
    constructor
    · intro horigin hinfix
      obtain ⟨before, after, hsplits⟩ := SplitsAt.exists_of_infix hinfix
      rw [toList_origin_of_splitsAt hsplits] at horigin
      generalize hshown : before ++ separator ++ hostPart after = shown at horigin
      generalize url.toList = chars at horigin
      cases horigin with
      | absolute hscheme => exact ⟨_, _, hscheme, rfl⟩
      | relative =>
        -- a slash of the separator would stand among characters that end no host
        have hslash := isHostPart_hostPart chars '/' (by simp [← hshown, separator])
        exact absurd hslash (by decide)
    · intro hkeeps
      by_cases hinfix : separator <:+: url.toList
      · obtain ⟨scheme, rest, hscheme, heq⟩ := hkeeps hinfix
        rw [toList_origin_of_splitsAt (splitsAt_of_isHostPart hscheme heq), heq]
        exact .absolute hscheme
      · rw [toList_origin_of_no_separator hinfix]
        exact .relative fun scheme rest heq => absurd ⟨scheme, rest, heq.symm⟩ hinfix
  refine ⟨prefix_origin url, hiff url, fun _ _ => toList_origin_of_splitsAt, ?_⟩
  intro other profile shown hurl hother hshown hsame
  have heq : origin url = origin other := by
    apply String.toList_injective
    rw [((hiff url).2 hurl).unique hshown, ((hiff other).2 hother).unique hsame]
  rw [logging, logging, heq]

/-- Addresses that differ in their tokens alone are logged alike, also if another address follows
the token. -/
theorem isOrigin_origin_of_tokens :
    let url := "https://sub.example:8443/s/abc?next=https://web.example"
    let other := "https://sub.example:8443/s/xyz?next=https://web.example"
    let shown := "https://sub.example:8443".toList
    KeepsScheme url.toList ∧ KeepsScheme other.toList ∧ IsOrigin url.toList shown ∧
      IsOrigin other.toList shown ∧ logging "Panel" url = logging "Panel" other := by
  intro url other shown
  have horigin {url : String} (path : List Char)
      (hurl : url.toList = "https".toList ++ separator ++ path)
      (hshown : "https".toList ++ separator ++ hostPart path = shown) :
      KeepsScheme url.toList ∧ IsOrigin url.toList shown := by
    have hscheme : IsHostPart "https".toList := by
      simp [IsHostPart, endsHost]
    refine ⟨fun _ => ⟨_, path, hscheme, hurl⟩, ?_⟩
    rw [hurl, ← hshown]
    exact .absolute hscheme
  obtain ⟨hurl, hshown⟩ : KeepsScheme url.toList ∧ IsOrigin url.toList shown :=
    horigin "sub.example:8443/s/abc?next=https://web.example".toList (by decide) (by decide)
  obtain ⟨hother, hsame⟩ : KeepsScheme other.toList ∧ IsOrigin other.toList shown :=
    horigin "sub.example:8443/s/xyz?next=https://web.example".toList (by decide) (by decide)
  exact ⟨hurl, hother, hshown, hsame,
    (isOrigin_origin_iff url).2.2.2 other "Panel" shown hurl hother hshown hsame⟩

/-- Without a scheme, a separator in the query has the path logged with the token in it. -/
theorem origin_with_path :
    let url := "sub.example/s/abc?next=https://web.example"
    let other := "sub.example/s/xyz?next=https://web.example"
    let shown := "sub.example".toList
    IsOrigin url.toList shown ∧ IsOrigin other.toList shown ∧ origin url = url ∧
      origin other = other ∧ logging "Panel" url ≠ logging "Panel" other := by
  intro url other shown
  have hurl : origin url = url := by decide
  have hother : origin other = other := by decide
  have horigin {url : String} (hhost : hostPart url.toList = shown) :
      IsOrigin url.toList shown := by
    rw [← hhost]
    refine isOrigin_hostPart ?_
    rw [hhost]
    decide
  refine ⟨horigin (by decide), horigin (by decide), hurl, hother, ?_⟩
  rw [logging, logging, hurl, hother]
  intro hsame
  simp [url, other] at hsame

end Origin

end PanelClient.Importer
