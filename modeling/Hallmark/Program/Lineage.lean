/-
# Hallmark.Program.Lineage -- the order of ancestors

The ancestors of a class stand in one order, the nearest first.  A class with several
bases merges their orders: again and again the first head is taken that no order holds
further back, so that every order, and the order of the bases, survives in the merged
one.  Where every head is held back somewhere there is no such order.
-/

namespace Hallmark.Program

set_option autoImplicit false

variable {α : Type} [DecidableEq α]

/-- Whether no order holds `a` behind its head. -/
def isFree (orders : List (List α)) (a : α) : Bool := orders.all fun order => a ∉ order.tail

/-- The orders once `a` has been taken from their heads. -/
def pass (a : α) (orders : List (List α)) : List (List α) :=
  orders.map fun order => if order.head? = some a then order.tail else order

def remaining (orders : List (List α)) : Nat := orders.flatten.length

theorem remaining_pass_le (a : α) (orders : List (List α)) :
    remaining (pass a orders) ≤ remaining orders := by
  induction orders with
  | nil => exact Nat.le_refl _
  | cons order rest ih =>
    simp only [remaining, pass, List.map_cons, List.flatten_cons, List.length_append] at ih ⊢
    split
    · simp only [List.length_tail]
      omega
    · omega

theorem remaining_pass_lt {a : α} {orders : List (List α)}
    (heads : a ∈ orders.filterMap List.head?) :
    remaining (pass a orders) < remaining orders := by
  induction orders with
  | nil => cases heads
  | cons order rest ih =>
    have shrunk := remaining_pass_le a rest
    simp only [remaining, pass, List.map_cons, List.flatten_cons, List.length_append] at ih shrunk ⊢
    split
    · rename_i here
      cases order with
      | nil => cases here
      | cons first others =>
        simp only [List.tail_cons, List.length_cons]
        omega
    · rename_i elsewhere
      have later : a ∈ rest.filterMap List.head? := by
        cases order with
        | nil => simpa using heads
        | cons first others =>
          simp only [List.head?_cons, Option.some.injEq] at elsewhere
          simp only [List.filterMap_cons, List.head?_cons, List.mem_cons] at heads
          exact heads.resolve_left fun same => elsewhere same.symm
      have := ih later
      omega

/-- One order that keeps the order of each of several, if there is one. -/
def mergeOrders (orders : List (List α)) : Option (List α) :=
  match _found : (orders.filterMap List.head?).find? (isFree orders) with
  | some a => (a :: ·) <$> mergeOrders (pass a orders)
  | none => if orders.all List.isEmpty then some [] else none
termination_by remaining orders
decreasing_by exact remaining_pass_lt (List.mem_of_find?_eq_some _found)

theorem mergeOrders_of_free {orders : List (List α)} {a : α}
    (free : (orders.filterMap List.head?).find? (isFree orders) = some a) :
    mergeOrders orders = (a :: ·) <$> mergeOrders (pass a orders) := by
  rw [mergeOrders]
  split
  · rename_i b chosen
    cases chosen.symm.trans free
    rfl
  · rename_i stuck
    cases stuck.symm.trans free

theorem mergeOrders_of_empty {orders : List (List α)} (empty : orders.all List.isEmpty = true) :
    mergeOrders orders = some [] := by
  have none_free : orders.filterMap List.head? = [] := by
    simpa [List.filterMap_eq_nil_iff] using empty
  rw [mergeOrders]
  split
  · rename_i b chosen
    rw [none_free] at chosen
    cases chosen
  · rw [if_pos empty]

/-- The merged order keeps every order that it was merged from. -/
theorem sublist_mergeOrders {orders : List (List α)} {merged : List α}
    (done : mergeOrders orders = some merged) {order : List α} (member : order ∈ orders) :
    order.Sublist merged := by
  induction orders using mergeOrders.induct generalizing merged order with
  | case1 orders a found ih =>
    unfold mergeOrders at done
    split at done
    · rename_i b chosen
      cases chosen.symm.trans found
      obtain ⟨rest, continued, rfl⟩ := Option.map_eq_some_iff.1 done
      have passed : (if order.head? = some a then order.tail else order) ∈ pass a orders :=
        List.mem_map_of_mem member
      split at passed
      · rename_i here
        cases order with
        | nil => cases here
        | cons first others =>
          cases here
          exact (ih continued passed).cons_cons _
      · exact (ih continued passed).cons _
    · rename_i stuck
      cases stuck.symm.trans found
  | case2 orders stuck empty =>
    have gone : order = [] := by simpa using List.all_eq_true.1 empty order member
    exact gone ▸ List.nil_sublist _
  | case3 orders stuck blocked =>
    unfold mergeOrders at done
    split at done
    · rename_i a chosen
      cases chosen.symm.trans stuck
    · simp [blocked] at done

end Hallmark.Program
