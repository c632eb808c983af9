import PanelClient.Backend.Operation
import PanelClient.Proofs.Json.RoundTrip

/-!
# Bodies of requests

The body of a post is read as the object of what was posted (`parse?_body_post`), whatever the order
of its members was.
-/

namespace PanelClient

namespace Json

variable {members : List (String × Json)}

theorem membersPlain_of_forall (h : ∀ member ∈ members, member.2.IsPlain) :
    membersPlain members := by
  induction members with
  | nil => trivial
  | cons member rest ih =>
    refine ⟨h member List.mem_cons_self, ih ?_⟩
    intro other hother
    exact h other (List.mem_cons_of_mem member hother)

theorem membersDepth_le {bound : Nat} (h : ∀ member ∈ members, member.2.depth ≤ bound) :
    membersDepth members ≤ bound := by
  induction members with
  | nil => exact Nat.zero_le _
  | cons member rest ih =>
    have hfirst := h member List.mem_cons_self
    have hrest : membersDepth rest ≤ bound := by
      apply ih
      intro other hother
      exact h other (List.mem_cons_of_mem member hother)
    rw [membersDepth]
    omega

/-- The value is read back as a member of a body. -/
def IsPostable (value : Json) : Prop :=
  value.IsPlain ∧ value.depth < Reader.maxDepth

theorem isPostable_text (s : String) : (text s).IsPostable :=
  ⟨trivial, Nat.zero_lt_succ _⟩

/-- An integer of the range of signed words. -/
def IsSigned (n : Int) : Prop :=
  minSigned ≤ n ∧ n ≤ maxSigned

theorem isPostable_integer {n : Int} (h : IsSigned n) : (integer n).IsPostable := by
  obtain ⟨hmin, hmax⟩ := h
  refine ⟨⟨hmin, ?_⟩, Nat.zero_lt_succ _⟩
  simp only [maxSigned, maxUnsigned] at hmax ⊢
  omega

end Json

/-- What is posted is read from the body as an object. -/
theorem parse?_body_post (client : Client) (session : Session) (endpoint : Endpoint)
    {members : List (String × Json)}
    (h : ∀ member ∈ members, member.2.IsPostable) :
    (client.request session (Operation.post endpoint members)).body.bind Json.parse? =
      some (.object (Entries.ofPairs members)) := by
  have plain : (Json.object (Entries.ofPairs members)).IsPlain := by
    refine ⟨Entries.sorted_ofPairs members, Json.membersPlain_of_forall ?_⟩
    intro member hmember
    exact (h member (Entries.mem_of_mem_ofPairs hmember)).1
  have shallow : Json.membersDepth (Entries.ofPairs members) ≤ Json.Reader.maxDepth - 1 := by
    apply Json.membersDepth_le
    intro member hmember
    have hdepth := (h member (Entries.mem_of_mem_ofPairs hmember)).2
    omega
  have hdepth : (Json.object (Entries.ofPairs members)).depth ≤ Json.Reader.maxDepth := by
    rw [Json.depth]
    simp only [Json.Reader.maxDepth] at shallow ⊢
    omega
  exact Json.parse?_render plain hdepth

end PanelClient
