import PanelClient.Proofs.Entries.Order
import PanelClient.Toml.Document

/-!
# The members of a document stand in order

Whatever is read, the members of the document come in the order of their keys
(`sorted_of_parse?`): all that the reader does to its table is to insert.
-/

namespace PanelClient.Toml

/-- What is done to a table leaves its members in order. -/
def KeepsOrder (change : Origin → Members → Option (Origin × Members)) : Prop :=
  ∀ origin members origin' members', change origin members = some (origin', members') →
    members.Sorted → members'.Sorted

theorem keepsOrder_reach {dotted : Bool} {change : Origin → Members → Option (Origin × Members)}
    (h : KeepsOrder change) (path : List String) : KeepsOrder (reach dotted change path) := by
  intro origin members origin' members' hreach hsorted
  cases path with
  | nil => exact h origin members origin' members' hreach hsorted
  | cons key rest =>
    simp only [reach] at hreach
    -- whatever stands under the key, the table there is put back by an insertion
    split at hreach
    · obtain ⟨inner, -, heq⟩ := Option.bind_eq_some_iff.1 hreach
      cases heq
      exact hsorted.insert ..
    · split at hreach
      · cases hreach
      · obtain ⟨inner, -, heq⟩ := Option.bind_eq_some_iff.1 hreach
        cases heq
        exact hsorted.insert ..
    · split at hreach
      · cases hreach
      · obtain ⟨inner, -, heq⟩ := Option.bind_eq_some_iff.1 hreach
        cases heq
        exact hsorted.insert ..
    · cases hreach

theorem keepsOrder_assign (path : List String) (value : Value) :
    KeepsOrder (assign path value) := by
  intro origin members origin' members' hassign
  unfold assign at hassign
  split at hassign
  · cases hassign
  · refine keepsOrder_reach ?_ _ origin members origin' members' hassign
    intro origin members origin' members' hinsert hsorted
    dsimp only at hinsert
    split at hinsert
    · cases hinsert
    · cases hinsert
      exact hsorted.insert ..

theorem sorted_assignIn {header path : List String} {value : Value} {root members : Members}
    (h : assignIn header path value root = some members) (hsorted : root.Sorted) :
    members.Sorted := by
  obtain ⟨⟨origin, inner⟩, hreach, heq⟩ := Option.bind_eq_some_iff.1 h
  cases heq
  exact keepsOrder_reach (keepsOrder_assign path value) header _ _ _ _ hreach hsorted

theorem sorted_openTable {path : List String} {root members : Members}
    (h : openTable path root = some members) (hsorted : root.Sorted) : members.Sorted := by
  unfold openTable at h
  split at h
  · cases h
  · obtain ⟨⟨origin, inner⟩, hreach, heq⟩ := Option.bind_eq_some_iff.1 h
    cases heq
    refine keepsOrder_reach ?_ _ _ _ _ _ hreach hsorted
    intro origin members origin' members' hinsert hsorted
    dsimp only at hinsert
    split at hinsert
    · cases hinsert
      exact hsorted.insert ..
    · cases hinsert
      exact hsorted.insert ..
    · cases hinsert

theorem sorted_openItem {path : List String} {root members : Members}
    (h : openItem path root = some members) (hsorted : root.Sorted) : members.Sorted := by
  unfold openItem at h
  split at h
  · cases h
  · obtain ⟨⟨origin, inner⟩, hreach, heq⟩ := Option.bind_eq_some_iff.1 h
    cases heq
    refine keepsOrder_reach ?_ _ _ _ _ _ hreach hsorted
    intro origin members origin' members' hinsert hsorted
    dsimp only at hinsert
    split at hinsert
    · cases hinsert
      exact hsorted.insert ..
    · cases hinsert
      exact hsorted.insert ..
    · cases hinsert

namespace Reader

variable {r next : Reader} {t : Token}

theorem sorted_deliver {value : Value} (h : r.deliver value = some next) (hsorted : r.root.Sorted) :
    next.root.Sorted := by
  unfold deliver at h
  split at h
  · obtain ⟨root, hroot, heq⟩ := Option.bind_eq_some_iff.1 h
    cases heq
    exact sorted_assignIn hroot hsorted
  · cases h
    exact hsorted
  · obtain ⟨members, -, heq⟩ := Option.bind_eq_some_iff.1 h
    cases heq
    exact hsorted

theorem sorted_beginValue (h : r.beginValue t = some next) (hsorted : r.root.Sorted) :
    next.root.Sorted := by
  unfold beginValue at h
  split at h
  · exact sorted_deliver h hsorted
  · exact sorted_deliver h hsorted
  · cases h
    exact hsorted
  · cases h
    exact hsorted
  · split at h <;> cases h
    exact hsorted
  · split at h <;> cases h
    exact hsorted
  · cases h

theorem sorted_endKey {use : KeyUse} {path : List String} (h : r.endKey use path t = some next)
    (hsorted : r.root.Sorted) : next.root.Sorted := by
  unfold endKey at h
  split at h
  · cases h
    exact hsorted
  · obtain ⟨root, hroot, heq⟩ := Option.bind_eq_some_iff.1 h
    cases heq
    exact sorted_openTable hroot hsorted
  · cases h
    exact hsorted
  · cases h
    exact hsorted
  · cases h
    exact hsorted
  · cases h

theorem sorted_of_keyPart {stage : String → Stage}
    (h : (keyPart? t).map (fun part => { r with stage := stage part }) = some next)
    (hsorted : r.root.Sorted) : next.root.Sorted := by
  obtain ⟨part, -, rfl⟩ := Option.map_eq_some_iff.1 h
  exact hsorted

theorem sorted_between (h : r.between t = some next) (hsorted : r.root.Sorted) :
    next.root.Sorted := by
  unfold between at h
  split at h
  case h_4 =>
    obtain ⟨root, hroot, heq⟩ := Option.bind_eq_some_iff.1 h
    cases heq
    exact sorted_openItem hroot hsorted
  case h_17 =>
    split at h <;> cases h
    exact hsorted
  -- Elsewhere the table stays, or one of the parts above has changed it.
  all_goals first
    | exact sorted_of_keyPart h hsorted
    | exact sorted_endKey h hsorted
    | exact sorted_deliver h hsorted
    | exact sorted_beginValue h hsorted
    | cases h <;> exact hsorted

theorem sorted_endScalar {chars : List Char} (h : r.endScalar chars = some next)
    (hsorted : r.root.Sorted) : next.root.Sorted := by
  obtain ⟨value, -, hdeliver⟩ := Option.bind_eq_some_iff.1 h
  exact sorted_deliver hdeliver hsorted

theorem sorted_endScalar_between {chars : List Char}
    (h : (r.endScalar chars).bind (fun r => r.between t) = some next) (hsorted : r.root.Sorted) :
    next.root.Sorted := by
  obtain ⟨middle, hmiddle, hbetween⟩ := Option.bind_eq_some_iff.1 h
  exact sorted_between hbetween (sorted_endScalar hmiddle hsorted)

/-- A token leaves the members of the document in order. -/
theorem sorted_step (h : r.step t = some next) (hsorted : r.root.Sorted) : next.root.Sorted := by
  unfold step at h
  split at h
  · split at h
    · cases h
      exact hsorted
    · cases h
      exact hsorted
    · split at h
      · cases h
        exact hsorted
      · exact sorted_endScalar h hsorted
    · exact sorted_endScalar_between h hsorted
  · split at h
    · split at h
      · cases h
        exact hsorted
      · exact sorted_endScalar_between h hsorted
    · exact sorted_endScalar_between h hsorted
  · exact sorted_between h hsorted

theorem sorted_foldlM {tokens : List Token} (h : tokens.foldlM step r = some next)
    (hsorted : r.root.Sorted) : next.root.Sorted := by
  induction tokens generalizing r with
  | nil =>
    cases h
    exact hsorted
  | cons t rest ih =>
    obtain ⟨middle, hstep, hrest⟩ := Option.bind_eq_some_iff.1 h
    exact ih hrest (sorted_step hstep hsorted)

theorem sorted_finish {members : Members} (h : r.finish = some members) (hsorted : r.root.Sorted) :
    members.Sorted := by
  unfold finish at h
  dsimp only at h
  split at h
  · obtain ⟨last, hlast, hroot⟩ := Option.bind_eq_some_iff.1 h
    split at hroot <;> cases hroot <;> exact sorted_endScalar hlast hsorted
  · obtain ⟨last, hlast, hroot⟩ := Option.bind_eq_some_iff.1 h
    split at hroot <;> cases hroot <;> exact sorted_endScalar hlast hsorted
  · rw [Option.bind_eq_bind, Option.bind_some] at h
    split at h <;> cases h <;> exact hsorted

end Reader

/-- The members of a document that is read stand in the order of their keys. -/
theorem sorted_of_parse? {text : String} {members : Members} (h : parse? text = some members) :
    members.Sorted := by
  obtain ⟨tokens, -, hread⟩ := Option.bind_eq_some_iff.1 h
  obtain ⟨reader, hreader, hfinish⟩ := Option.bind_eq_some_iff.1 hread
  have hstart : Reader.start.root.Sorted := List.Pairwise.nil
  exact Reader.sorted_finish hfinish (Reader.sorted_foldlM hreader hstart)

end PanelClient.Toml
