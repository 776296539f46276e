import Mathlib.Data.List.Forall2
import Mathlib.Data.List.Induction

/-!
# Hash chains

A chain starts from the digest of a root message. Every item is linked to the digest before it by
a message of its own, whose digest is the next. The digest at the end stands for the whole chain
as far as the digest function has no collision among the messages of the chains compared.

Results:
1. The chain, its messages and its links at the end of a list (`chain_concat`, `links_concat`,
   `linked_concat`).
2. Chains of any lengths that end in one digest have one root and items that their links do not
   tell apart (`faithful`).
-/

namespace HashChain

variable {M D α : Type} (digest : M → D) (link : D → α → M)

/-- The digest at the end of the chain that goes on from `d`. -/
def chain (d : D) (xs : List α) : D := xs.foldl (fun d x => digest (link d x)) d

/-- The messages that link the items. -/
def links (d : D) : List α → List M
  | [] => []
  | x :: xs => link d x :: links (digest (link d x)) xs

/-- Every item is as `P` says for the digest before it. -/
def Linked (P : D → α → Prop) (d : D) : List α → Prop
  | [] => True
  | x :: xs => P d x ∧ Linked P (digest (link d x)) xs

variable {digest link}

@[simp] theorem chain_concat {d : D} {xs : List α} {x : α} :
    chain digest link d (xs ++ [x]) = digest (link (chain digest link d xs) x) := by
  rw [chain, List.foldl_append]
  rfl

@[simp] theorem links_concat {d : D} {xs : List α} {x : α} :
    links digest link d (xs ++ [x]) =
      links digest link d xs ++ [link (chain digest link d xs) x] := by
  induction xs generalizing d with
  | nil => rfl
  | cons y xs ih =>
    rw [List.cons_append, links, ih]
    rfl

@[simp] theorem linked_concat {P : D → α → Prop} {d : D} {xs : List α} {x : α} :
    Linked digest link P d (xs ++ [x]) ↔
      Linked digest link P d xs ∧ P (chain digest link d xs) x := by
  induction xs generalizing d with
  | nil => exact and_comm
  | cons y xs ih =>
    rw [List.cons_append, Linked, ih, Linked, and_assoc]
    rfl

variable {root : M} {d : D} {xs : List α} {x : α}

theorem mem_links_concat {m : M} (h : m ∈ root :: links digest link d xs) :
    m ∈ root :: links digest link d (xs ++ [x]) := by
  rw [links_concat, ← List.cons_append]
  exact List.mem_append_left _ h

theorem last_mem_links :
    link (chain digest link d xs) x ∈ root :: links digest link d (xs ++ [x]) := by
  rw [links_concat, ← List.cons_append]
  exact List.mem_append_right _ (List.mem_singleton_self _)

variable {link' : D → α → M} {P : D → α → Prop} {R : α → α → Prop} {root' : M} {ys : List α}

/-- Chains that end in one digest agree item by item. The roots are no links, so the chains have
one length. -/
theorem faithful
    (hlink : ∀ x ∈ xs, ∀ y ∈ ys, ∀ d d', P d x → P d' y → link d x = link' d' y → d = d' ∧ R x y)
    (hxs : Linked digest link P (digest root) xs) (hys : Linked digest link' P (digest root') ys)
    (hroot : ∀ y ∈ ys, ∀ d, root ≠ link' d y) (hroot' : ∀ x ∈ xs, ∀ d, link d x ≠ root')
    (hdigest : ∀ m ∈ root :: links digest link (digest root) xs,
      ∀ m' ∈ root' :: links digest link' (digest root') ys, digest m = digest m' → m = m')
    (h : chain digest link (digest root) xs = chain digest link' (digest root') ys) :
    root = root' ∧ List.Forall₂ R xs ys := by
  induction xs using List.reverseRecOn generalizing ys with
  | nil =>
    cases ys using List.reverseRecOn with
    | nil => exact ⟨hdigest _ List.mem_cons_self _ List.mem_cons_self h, .nil⟩
    | append_singleton ys y =>
      rw [chain_concat] at h
      exact absurd (hdigest _ List.mem_cons_self _ last_mem_links h) (hroot y (by simp) _)
  | append_singleton xs x ih =>
    rw [chain_concat] at h
    cases ys using List.reverseRecOn with
    | nil => exact absurd (hdigest _ last_mem_links _ List.mem_cons_self h) (hroot' x (by simp) _)
    | append_singleton ys y =>
      rw [chain_concat] at h
      rw [linked_concat] at hxs hys
      have hlast := hdigest _ last_mem_links _ last_mem_links h
      obtain ⟨hchain, hitem⟩ := hlink x (by simp) y (by simp) _ _ hxs.2 hys.2 hlast
      obtain ⟨heq, hitems⟩ := ih
        (fun a ha b hb => hlink a (List.mem_append_left _ ha) b (List.mem_append_left _ hb))
        hxs.1 hys.1 (fun b hb => hroot b (List.mem_append_left _ hb))
        (fun a ha => hroot' a (List.mem_append_left _ ha))
        (fun m hm m' hm' => hdigest m (mem_links_concat hm) m' (mem_links_concat hm')) hchain
      exact ⟨heq, List.rel_append hitems (.cons hitem .nil)⟩

end HashChain
