import DocRoot.Listing
import DocRoot.Proofs.Utf8

/-!
# How long a listing is

A page is as long as its frame and its lines. Sorting keeps the items, so a page with more of
them is longer, and two pages of different lengths are told apart by their headers.
-/

set_option autoImplicit false

namespace DocRoot

namespace Listing

theorem sort_perm (items : List Item) : (sort items).Perm items := by
  have hsorted := (List.mergeSort_perm (items.map fun i => (i.sortKey, i))
    fun a b => decide (a.1 ≤ b.1)).map (·.2)
  simpa [sort, Function.comp_def] using hsorted

/-- The number of bytes of the lines for some items. -/
def lineBytes (items : List Item) : Nat := (items.flatMap fun i => utf8 i.html).length

theorem length_join (items : List Item) :
    (utf8 (String.join (items.map Item.html))).length = lineBytes items := by
  induction items with
  | nil => rfl
  | cons i items ih =>
    simp only [List.map_cons, String.join_cons, utf8_append, List.length_append, ih, lineBytes,
      List.flatMap_cons]

/-- Of the items of a page only their lines count for its length. -/
theorem exists_length_page (display : String) :
    ∃ frame, ∀ items, (utf8 (page display items)).length = frame + lineBytes items := by
  have hpage : ∃ top bottom, ∀ items,
      page display items = top ++ String.join (items.map Item.html) ++ bottom :=
    ⟨_, _, fun _ => rfl⟩
  obtain ⟨top, bottom, hpage⟩ := hpage
  refine ⟨(utf8 top).length + (utf8 bottom).length, ?_⟩
  intro items
  simp only [hpage, utf8_append, List.length_append, length_join]
  omega

theorem lineBytes_pos {items : List Item} (h : items ≠ []) : 0 < lineBytes items := by
  obtain ⟨i, rest, rfl⟩ := List.exists_cons_of_ne_nil h
  have hfront : 0 < (utf8 "<li><a href=\"").length := by decide
  simp only [lineBytes, List.flatMap_cons, Item.html, utf8_append, List.length_append]
  omega

/-- A page with more items is a longer one, in whatever order they come. -/
theorem length_page_lt {items more extra : List Item} (display : String)
    (h : more.Perm (extra ++ items)) (hne : extra ≠ []) :
    (utf8 (page display (sort items))).length < (utf8 (page display (sort more))).length := by
  obtain ⟨frame, hlength⟩ := exists_length_page display
  have hsort : ∀ items, lineBytes (sort items) = lineBytes items :=
    fun items => ((sort_perm items).flatMap_right _).length_eq
  have hmore : lineBytes more = lineBytes extra + lineBytes items := by
    have hlengths := (h.flatMap_right fun i => utf8 i.html).length_eq
    rwa [List.flatMap_append, List.length_append] at hlengths
  have := lineBytes_pos hne
  rw [hlength, hlength, hsort, hsort, hmore]
  omega

end Listing

end DocRoot
