import DiagramRepair.Diagram.Count
import DiagramRepair.Proofs.Text.Runs

/-! Connectors in a statement, counted. They lie in the runs of the few characters that they are
made of, so the count of a statement is that of its runs.
-/

namespace DiagramRepair.Counts

open Text

/-- The characters of connectors. -/
def connectorChars : List Char :=
  ['<', '-', '.', '=', '>']

theorem mem_connectorChars {connector : Text} (h : connector ∈ connectors) {c : Char}
    (hc : c ∈ connector)
    : c ∈ connectorChars := by
  have hall : ∀ c ∈ connectors.flatten, c ∈ connectorChars :=
    List.all_iff_forall_prop.1 (by decide +kernel)
  exact hall c (List.mem_flatten_of_mem h hc)

/-- How many connectors a statement holds, one behind the other. -/
def connectorCount (statement : Text) : Nat :=
  (connectedParts statement).length - 1

theorem connectedParts_ne_nil (statement : Text) : connectedParts statement ≠ [] := by
  fun_induction connectedParts statement with
  | case1 => exact List.cons_ne_nil _ _
  | case2 => exact List.cons_ne_nil _ _
  | case3 => exact List.cons_ne_nil _ _
  | case4 => exact List.cons_ne_nil _ _

@[simp]
theorem connectorCount_nil : connectorCount [] = 0 := by
  rw [connectorCount, connectedParts]
  rfl

theorem connectorCount_of_some {c : Char} {rest behind : Text}
    (h : afterConnector? (c :: rest) = some behind)
    : connectorCount (c :: rest) = connectorCount behind + 1 := by
  have hpos := List.length_pos_iff.2 (connectedParts_ne_nil behind)
  have hparts : connectedParts (c :: rest) = [] :: connectedParts behind := by
    rw [connectedParts]
    split
    · rename_i found hfound
      obtain rfl := Option.some.inj (hfound.symm.trans h)
      rfl
    · rename_i hnone
      rw [h] at hnone
      cases hnone
  rw [connectorCount, connectorCount, hparts, List.length_cons]
  omega

theorem connectorCount_of_none {c : Char} {rest : Text} (h : afterConnector? (c :: rest) = none)
    : connectorCount (c :: rest) = connectorCount rest := by
  obtain ⟨part, parts, hrest⟩ := List.exists_cons_of_ne_nil (connectedParts_ne_nil rest)
  have hparts : connectedParts (c :: rest) = (c :: part) :: parts := by
    rw [connectedParts]
    split
    · rename_i found hfound
      rw [h] at hfound
      cases hfound
    · rw [hrest]
  rw [connectorCount, connectorCount, hparts, hrest, List.length_cons, List.length_cons]

theorem afterConnector?_nil : afterConnector? [] = none := by
  decide

theorem findSome?_afterLead?_append_cons {leads : List Text} {c : Char}
    (h : ∀ lead ∈ leads, c ∉ lead) (front back : Text)
    : leads.findSome? (afterLead? · (front ++ c :: back))
      = (leads.findSome? (afterLead? · front)).map (· ++ c :: back) := by
  induction leads with
  | nil => rfl
  | cons lead leads ih =>
      rw [List.forall_mem_cons] at h
      rw [List.findSome?_cons, List.findSome?_cons, afterLead?_append_cons h.1]
      cases afterLead? lead front with
      | some rest => rfl
      | none => exact ih h.2

/-- No connector reaches beyond a character that none holds. -/
theorem afterConnector?_append_cons {c : Char} (hc : c ∉ connectorChars) (front back : Text)
    : afterConnector? (front ++ c :: back)
      = (afterConnector? front).map (· ++ c :: back) :=
  findSome?_afterLead?_append_cons (fun _ hm hmem => hc (mem_connectorChars hm hmem)) front back

/-- The connectors on the two sides of such a character are counted one by one. By induction on
the connectors in front of it. -/
theorem connectorCount_append_cons {c : Char} (hc : c ∉ connectorChars) (front back : Text)
    : connectorCount (front ++ c :: back) = connectorCount front + connectorCount back := by
  have hmissed : ∀ {d : Char} {rest : Text}, afterConnector? (d :: rest) = none
      → afterConnector? (d :: (rest ++ c :: back)) = none := by
    intro d rest hnone
    rw [← List.cons_append, afterConnector?_append_cons hc, hnone, Option.map_none]
  fun_induction connectedParts front with
  | case1 =>
      have hnone : afterConnector? (c :: back) = none := by
        simpa [afterConnector?_nil] using afterConnector?_append_cons hc [] back
      rw [List.nil_append, connectorCount_of_none hnone, connectorCount_nil, Nat.zero_add]
  | case2 d rest behind hbehind ih =>
      have hfound := afterConnector?_append_cons hc (d :: rest) back
      rw [hbehind, Option.map_some, List.cons_append] at hfound
      rw [List.cons_append, connectorCount_of_some hfound, connectorCount_of_some hbehind, ih]
      omega
  | case3 d rest hnone _ ih =>
      rw [List.cons_append, connectorCount_of_none (hmissed hnone),
        connectorCount_of_none hnone, ih]
  | case4 d rest hnone _ _ _ ih =>
      rw [List.cons_append, connectorCount_of_none (hmissed hnone),
        connectorCount_of_none hnone, ih]

theorem byRuns_connectorCount : ByRuns connectorCount (· + ·) connectorChars where
  solid := List.all_iff_forall_prop.1 (by decide)
  append_cons := connectorCount_append_cons
  nil_join := by simp
  join_nil := by simp

end DiagramRepair.Counts
