import Mathlib.Logic.Relation

/-!
# Acyclic relations

A relation is *acyclic* when no element reaches itself in one or more steps.  A wait-for
graph is kept acyclic by a detector that checks each new set of edges before it is added:
the edges go out of one node `t`, and they close a cycle exactly when one of their targets
already reaches `t` (`Relation.Acyclic.addEdges`).  The two ways a detector rules that out are
a node without incoming edges (`Relation.not_reflTransGen_of_no_in`) and an exhausted search,
which has built a set that holds the targets, is closed under the relation and misses `t`
(`Relation.mem_of_reflTransGen_of_closed`).  Removing edges keeps a relation acyclic
(`Relation.Acyclic.mono`).
-/

namespace Relation

variable {α : Type*} {r r' : α → α → Prop}

/-- `r` has no cycle: no element reaches itself in one or more steps. -/
def Acyclic (r : α → α → Prop) : Prop := ∀ a, ¬ TransGen r a a

theorem Acyclic.mono (h : Acyclic r) (hle : ∀ a b, r' a b → r a b) : Acyclic r' :=
  fun a ha => h a (TransGen.mono hle a a ha)

/-- `r` with edges added from `t` to every element of `S`. -/
def addEdges (r : α → α → Prop) (t : α) (S : Set α) : α → α → Prop :=
  fun a b => r a b ∨ (a = t ∧ b ∈ S)

/-- A path that uses an added edge passes through `t` and goes on from an element of `S` by old
edges only. -/
theorem transGen_addEdges {t : α} {S : Set α} {a b : α} (h : TransGen (addEdges r t S) a b) :
    TransGen r a b ∨ (ReflTransGen r a t ∧ ∃ s ∈ S, ReflTransGen r s b) := by
  induction h with
  | single hab =>
    rcases hab with hab | ⟨rfl, hb⟩
    · exact .inl (.single hab)
    · exact .inr ⟨.refl, _, hb, .refl⟩
  | tail _ hbc ih =>
    rcases hbc with hbc | ⟨rfl, hc⟩
    · rcases ih with ih | ⟨hat, s, hs, hsb⟩
      · exact .inl (ih.tail hbc)
      · exact .inr ⟨hat, s, hs, hsb.tail hbc⟩
    · -- the new edge leaves `t`: the path reached `t` by old edges, or through `S`
      rcases ih with ih | ⟨hat, -⟩
      · exact .inr ⟨ih.to_reflTransGen, _, hc, .refl⟩
      · exact .inr ⟨hat, _, hc, .refl⟩

/-- **Adding edges out of `t` keeps a relation acyclic** when no target of the new edges
reaches `t`. -/
theorem Acyclic.addEdges (h : Acyclic r) {t : α} {S : Set α}
    (hS : ∀ s ∈ S, ¬ ReflTransGen r s t) : Acyclic (addEdges r t S) := by
  intro a ha
  rcases transGen_addEdges ha with ha | ⟨hat, s, hs, hsa⟩
  · exact h a ha
  · exact hS s hs (hsa.trans hat)

/-- A node with no incoming edge is reached from nothing but itself. -/
theorem not_reflTransGen_of_no_in {t : α} {S : Set α} (hin : ∀ a, ¬ r a t) (ht : t ∉ S) :
    ∀ s ∈ S, ¬ ReflTransGen r s t := by
  intro s hs hst
  rcases hst.cases_tail with rfl | ⟨c, -, hct⟩
  · exact ht hs
  · exact hin c hct

/-- A set closed under `r` holds everything its elements reach. -/
theorem mem_of_reflTransGen_of_closed {T : Set α} (hT : ∀ a ∈ T, ∀ b, r a b → b ∈ T)
    {a b : α} (ha : a ∈ T) (h : ReflTransGen r a b) : b ∈ T := by
  induction h with
  | refl => exact ha
  | tail _ hbc ih => exact hT _ ih _ hbc

end Relation
