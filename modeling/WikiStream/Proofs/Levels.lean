import WikiStream.Proofs.Rendering

namespace WikiStream

namespace Rendering

def contents : List ListNode → List (List Token)
  | [] => []
  | .run _ nodes :: rest => contents nodes ++ contents rest
  | .line _ tokens :: rest => tokens :: contents rest

def rowContents (r : Row) : List (List Token) := r.cells.map Cell.content

def tableContents (t : Table) : List (List Token) := t.rows.flatMap rowContents

def planContents : Plan → Tag → List (List Token)
  | .around _ _, t => [t.children]
  | .hoist _ _, ⟨_, _, .tag anchor :: _, _, _, _⟩ => [anchor.children]
  | .lines _, ⟨_, _, _, _, .list nodes, _⟩ => contents nodes
  | .rows, ⟨_, _, _, _, .table t, _⟩ => tableContents t
  | _, _ => []

end Rendering

namespace Converter

open Rendering

variable (c : Converter)

def contentsOf : Token → List (List Token)
  | .content _ => []
  | .tag t => planContents (c.planFor t) t

/-- The lists of tokens that are not empty and lie `level` levels below the list `tokens`, which is
at level zero itself. -/
def listsAt : Nat → List Token → List (List Token)
  | _, [] => []
  | 0, token :: rest => [token :: rest]
  | level + 1, tokens => tokens.flatMap fun t ↦ (c.contentsOf t).flatMap (listsAt level)

theorem listsAt_nil (level : Nat) : c.listsAt level [] = [] := by
  cases level <;> rfl

theorem listsAt_succ (level : Nat) (tokens : List Token) :
    c.listsAt (level + 1) tokens =
      tokens.flatMap fun t ↦ (c.contentsOf t).flatMap (c.listsAt level) := by
  cases tokens <;> rfl

theorem self_mem_listsAt_zero {t : Token} {tokens : List Token} (ht : t ∈ tokens) :
    tokens ∈ c.listsAt 0 tokens := by
  cases tokens with
  | nil => cases ht
  | cons token rest => exact List.mem_singleton_self _

theorem mem_listsAt_succ {t : Token} {tokens inner l : List Token} {level : Nat}
    (ht : t ∈ tokens) (hi : inner ∈ c.contentsOf t) (hl : l ∈ c.listsAt level inner) :
    l ∈ c.listsAt (level + 1) tokens := by
  rw [listsAt_succ]
  exact List.mem_flatMap.2 ⟨t, ht, List.mem_flatMap.2 ⟨inner, hi, hl⟩⟩

end Converter

end WikiStream
