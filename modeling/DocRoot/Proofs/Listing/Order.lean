import DocRoot.Proofs.FileTree.WellFormed
import DocRoot.Proofs.Listing
import DocRoot.Proofs.Listing.Page
import DocRoot.Proofs.Serving.Concealment

/-!
# What a listing shows, and in which order

A directory is read in the order in which its entries were made. The listing sorts them by
what they are shown as, and a stable sort of distinct keys does not tell in which order it was
given its items.
-/

set_option autoImplicit false

namespace DocRoot

namespace Listing

open FileTree

section Sorting
variable {items more : List Item} {i j k : Item}

def Item.precedes (i j : Item) : Bool := decide (i.sortKey ≤ j.sortKey)

theorem Item.precedes_iff : i.precedes j = true ↔ i.sortKey ≤ j.sortKey := decide_eq_true_iff

theorem Item.precedes_trans (hij : i.precedes j = true) (hjk : j.precedes k = true) :
    i.precedes k = true := by
  rw [precedes_iff] at *
  exact List.le_trans hij hjk

theorem Item.precedes_total (i j : Item) : (i.precedes j || j.precedes i) = true := by
  rw [Bool.or_eq_true, precedes_iff, precedes_iff]
  exact List.le_total _ _

theorem sort_eq_mergeSort (items : List Item) : sort items = items.mergeSort Item.precedes := by
  have hkeyed : (items.mergeSort Item.precedes).map (fun i => (i.sortKey, i)) =
      (items.map fun i => (i.sortKey, i)).mergeSort fun a b => decide (a.1 ≤ b.1) := by
    apply List.map_mergeSort
    intro i _ j _
    rw [Item.precedes]
  rw [sort, ← hkeyed, List.map_map]
  exact List.map_id _

theorem sorted_sort (items : List Item) :
    (sort items).Pairwise fun i j => i.sortKey ≤ j.sortKey := by
  rw [sort_eq_mergeSort]
  have hsorted : (items.mergeSort Item.precedes).Pairwise fun i j => i.precedes j = true := by
    apply List.pairwise_mergeSort
    · intro i j k hij hjk
      exact Item.precedes_trans hij hjk
    · intro i j
      exact Item.precedes_total i j
  exact hsorted.imp Item.precedes_iff.mp

theorem nodup_sortKey (h : (items.map fun i => Text.lowercase i.shown).Nodup) :
    (items.map Item.sortKey).Nodup := by
  have hkey : Item.sortKey = utf8 ∘ fun i => Text.lowercase i.shown := by
    funext i
    rw [Item.sortKey, Function.comp_apply]
  rw [hkey, ← List.map_map]
  exact h.map fun _ _ heq => utf8_injective heq

/-- Items with distinct keys come in one order, in whichever they are given. -/
theorem sort_eq_of_perm (h : items.Perm more) (distinct : (items.map Item.sortKey).Nodup) :
    sort items = sort more := by
  have hperm : (sort items).Perm (sort more) :=
    (sort_perm items).trans (h.trans (sort_perm more).symm)
  refine hperm.eq_of_pairwise ?_ (sorted_sort items) (sorted_sort more)
  intro i j hi hj hij hji
  have hi' : i ∈ items := (sort_perm items).mem_iff.mp hi
  have hj' : j ∈ items := h.mem_iff.mpr ((sort_perm more).mem_iff.mp hj)
  exact List.inj_on_of_nodup_map distinct hi' hj' (List.le_antisymm hij hji)

/-- What is sorted are the items of the entries, in some order of these. -/
theorem exists_sort_map (f : Name × Node → Item) (entries : List (Name × Node)) :
    ∃ lines : List (Name × Node), lines.Perm entries ∧ sort (entries.map f) = lines.map f := by
  have hmap : (entries.mergeSort fun a b => (f a).precedes (f b)).map f =
      (entries.map f).mergeSort Item.precedes := by
    apply List.map_mergeSort
    intro a _ b _
    rfl
  exact ⟨_, List.mergeSort_perm _ _, (sort_eq_mergeSort _).trans hmap.symm⟩

end Sorting

/-- How an entry of a directory is shown and linked. What leads to a directory has a slash at
the end of its link. Where the path of the entry is too long to be asked about, it counts as
leading nowhere. -/
structure ListedAs (t : FileTree) (dir : List Name) (e : Name × Node) (i : Item) : Prop where
  leads_to_directory : (∃ l, t.resolve (dir ++ [e.1]) = .ok l ∧ t.at? l = some .directory) →
    i.link = Utf8.lossy e.1 ++ "/" ∧ i.href = Percent.text (Utf8.lossy e.1) ++ "/"
  leads_elsewhere : (¬∃ l, t.resolve (dir ++ [e.1]) = .ok l ∧ t.at? l = some .directory) →
    i.link = Utf8.lossy e.1 ∧ i.href = Percent.text (Utf8.lossy e.1)
  link : e.2.isLink = true → i.shown = Utf8.lossy e.1 ++ "@"
  directory : e.2 = .directory → Path.textLength (dir ++ [e.1]) ≤ maxPathLength →
    i.shown = Utf8.lossy e.1 ++ "/"
  too_long : e.2 = .directory → maxPathLength < Path.textLength (dir ++ [e.1]) →
    i.shown = Utf8.lossy e.1
  other : e.2.isLink = false → e.2.isDirectory = false → i.shown = Utf8.lossy e.1

section Showing
variable {t u : FileTree} {dir : List Name} {place : Location} {hidden : List Location}
  {e : Name × Node} {entries : List (Name × Node)}

theorem isHidden_eq_false_iff {steps : List Name} :
    isHidden t hidden steps = false ↔ ∀ l ∈ hidden, t.canonicalize steps ≠ .ok l := by
  unfold isHidden
  cases hc : t.canonicalize steps with
  | error e => simp
  | ok l =>
    simp only [← Bool.not_eq_true, List.contains_iff_mem]
    constructor
    · intro hnot place hplace heq
      exact hnot (Except.ok.inj heq ▸ hplace)
    · intro hall hl
      exact hall l hl rfl

theorem mem_shown_iff :
    e ∈ shown t dir hidden entries ↔
      e ∈ entries ∧ ∀ l ∈ hidden, t.canonicalize (dir ++ [e.1]) ≠ .ok l := by
  rw [shown, List.mem_filter, Bool.not_eq_true', isHidden_eq_false_iff]

theorem listedAs_itemOf (wf : t.WellFormed) (found : t.resolve dir = .ok place)
    (directory : t.at? place = some .directory) (he : t.at? (place ++ [e.1]) = some e.2) :
    ListedAs t dir e (itemOf t dir e) := by
  have hmem := (wf.at?_eq_some_iff (by simp)).mp he
  obtain ⟨hplain, hzero⟩ := wf.names _ hmem e.1 (by simp)
  have hlink : (itemOf t dir e).link =
      if t.isDirectory (dir ++ [e.1]) then Utf8.lossy e.1 ++ "/" else Utf8.lossy e.1 := rfl
  have hshown : (itemOf t dir e).shown =
      if e.2.isLink then Utf8.lossy e.1 ++ "@" else (itemOf t dir e).link := rfl
  have hhref : (itemOf t dir e).href = Percent.text (itemOf t dir e).link := rfl
  have hresolve : e.2.isLink = false → ∀ l, t.resolve (dir ++ [e.1]) = .ok l ↔
      Path.textLength (dir ++ [e.1]) ≤ maxPathLength ∧ l = place ++ [e.1] :=
    fun hnot l => resolve_entry found directory hplain hzero he hnot
  refine ⟨?_, ?_, ?_, ?_, ?_, ?_⟩
  · intro hd
    rw [← isDirectory_iff_at?] at hd
    rw [hhref, hlink, if_pos hd]
    exact ⟨rfl, Percent.text_append_slash _⟩
  · intro hnot
    rw [← isDirectory_iff_at?] at hnot
    rw [hhref, hlink, if_neg hnot]
    exact ⟨rfl, rfl⟩
  · intro hl
    rw [hshown, if_pos hl]
  · intro hnode hfits
    have hnot : e.2.isLink = false := by rw [hnode]; rfl
    have hd : t.isDirectory (dir ++ [e.1]) = true :=
      isDirectory_iff_at?.mpr ⟨_, (hresolve hnot _).mpr ⟨hfits, rfl⟩, hnode ▸ he⟩
    rw [hshown, if_neg (by simp [hnot]), hlink, if_pos hd]
  · intro hnode hlong
    have hnot : e.2.isLink = false := by rw [hnode]; rfl
    have hd : ¬t.isDirectory (dir ++ [e.1]) = true := by
      rw [isDirectory_iff_at?]
      rintro ⟨l, hr, _⟩
      exact Nat.not_lt.mpr ((hresolve hnot l).mp hr).1 hlong
    rw [hshown, if_neg (by simp [hnot]), hlink, if_neg hd]
  · intro hnot hnode
    have hd : ¬t.isDirectory (dir ++ [e.1]) = true := by
      rw [isDirectory_iff_at?]
      rintro ⟨l, hr, hl⟩
      obtain ⟨_, rfl⟩ := (hresolve hnot l).mp hr
      rw [Option.some.inj (he.symm.trans hl)] at hnode
      cases hnode
    rw [hshown, if_neg (by simp [hnot]), hlink, if_neg hd]

theorem render_of_resolve (found : t.resolve dir = .ok place)
    (directory : t.at? place = some .directory) (display : String) (hidden : List Location) :
    render t dir display hidden =
      .ok (page display (sort ((shown t dir hidden (t.entries place)).map (itemOf t dir)))) := by
  obtain ⟨n, hn, _⟩ := holds_of_resolve found
  obtain rfl := Option.some.inj (hn.node.symm.trans directory)
  rw [render, list_of_resolve found hn]
  rfl

/-- The same entries are shown in the same way, in whichever order the tree was made. -/
theorem items_of_perm (wf : t.WellFormed) (hp : u.nodes.Perm t.nodes) :
    ((shown u dir hidden (u.entries place)).map (itemOf u dir)).Perm
      ((shown t dir hidden (t.entries place)).map (itemOf t dir)) := by
  have hsame := wf.at?_of_perm hp
  have hitem : itemOf u dir = itemOf t dir := by
    funext e
    rw [itemOf, itemOf, isDirectory_of_at?_eq hsame]
  rw [hitem]
  apply List.Perm.map
  have hwf := wf.of_perm hp
  apply (List.perm_ext_iff_of_nodup ((hwf.nodup_entries place).filter _)
    ((wf.nodup_entries place).filter _)).mpr
  intro e
  change e ∈ shown u dir hidden (u.entries place) ↔ e ∈ shown t dir hidden (t.entries place)
  rw [mem_shown_iff, mem_shown_iff, hwf.mem_entries_iff, wf.mem_entries_iff, hsame]
  simp only [ne_eq, canonicalize_iff_of_at?_eq hsame]

end Showing

/-- A listing has a line for each entry that leads to no hidden place, in the order of what is
shown without regard to case. If that is never the same for two of them, the page is the same
in whichever order the directory is read. -/
theorem listing_shows_entries_in_order {t : FileTree} {dir : List Name} {place : Location}
    (wf : t.WellFormed) (found : t.resolve dir = .ok place)
    (directory : t.at? place = some .directory) (display : String) (hidden : List Location) :
    ∃ lines : List (Name × Node), lines.Nodup ∧
      (∀ e, e ∈ lines ↔ t.at? (place ++ [e.1]) = some e.2 ∧
        ∀ l ∈ hidden, t.canonicalize (dir ++ [e.1]) ≠ .ok l) ∧
      render t dir display hidden = .ok (page display (lines.map (itemOf t dir))) ∧
      links (page display (lines.map (itemOf t dir))) = lines.map (itemOf t dir) ∧
      (∀ e ∈ lines, ListedAs t dir e (itemOf t dir e)) ∧
      ((lines.map (itemOf t dir)).Pairwise fun i j => i.sortKey ≤ j.sortKey) ∧
      (((lines.map (itemOf t dir)).map fun i => Text.lowercase i.shown).Nodup →
        ∀ u : FileTree, u.nodes.Perm t.nodes →
          render u dir display hidden = render t dir display hidden) := by
  obtain ⟨lines, hperm, hsort⟩ :=
    exists_sort_map (itemOf t dir) (shown t dir hidden (t.entries place))
  have hmem : ∀ e, e ∈ lines ↔ t.at? (place ++ [e.1]) = some e.2 ∧
      ∀ l ∈ hidden, t.canonicalize (dir ++ [e.1]) ≠ .ok l := by
    intro e
    rw [hperm.mem_iff, mem_shown_iff, wf.mem_entries_iff]
  have hrender := render_of_resolve found directory display hidden
  refine ⟨lines, ?_, hmem, ?_, links_page _ _, ?_, ?_, ?_⟩
  · exact hperm.nodup_iff.mpr ((wf.nodup_entries place).filter _)
  · rw [hrender, hsort]
  · intro e he
    exact listedAs_itemOf wf found directory ((hmem e).mp he).1
  · rw [← hsort]
    exact sorted_sort _
  · intro distinct u hp
    have hsame := wf.at?_of_perm hp
    have hkeys := ((hperm.map _).map _).nodup_iff.mp (nodup_sortKey distinct)
    rw [hrender, render_of_resolve ((resolve_iff_of_at?_eq hsame).mpr found)
      ((hsame place).trans directory), sort_eq_of_perm (items_of_perm wf hp).symm hkeys]

/-- A directory with a file, a directory, a way back and settings in it. -/
def shelf : FileTree :=
  ⟨[([utf8 "d"], .directory), ([utf8 "d", utf8 "b"], .file []),
    ([utf8 "d", utf8 "fileserver.toml"], .file []), ([utf8 "d", utf8 "up"], .link (utf8 "..")),
    ([utf8 "d", utf8 "A"], .directory)]⟩

theorem wellFormed_shelf : shelf.WellFormed := ⟨by decide, by decide⟩

theorem listing_shows_entries_in_order_shelf :
    shelf.WellFormed ∧ ∃ lines : List (Name × Node),
      lines.Perm [(utf8 "b", .file []), (utf8 "up", .link (utf8 "..")), (utf8 "A", .directory)] ∧
      ∀ u : FileTree, u.nodes.Perm shelf.nodes →
        render u [utf8 "d"] "/d/" [[utf8 "d", utf8 "fileserver.toml"]] =
          .ok (page "/d/" (lines.map (itemOf shelf [utf8 "d"]))) := by
  have found : shelf.resolve [utf8 "d"] = .ok [utf8 "d"] := rfl
  obtain ⟨lines, hnodup, hmem, hrender, _, _, _, horder⟩ := listing_shows_entries_in_order
    wellFormed_shelf found rfl "/d/" [[utf8 "d", utf8 "fileserver.toml"]]
  have hlines : lines.Perm
      (shown shelf [utf8 "d"] [[utf8 "d", utf8 "fileserver.toml"]] (shelf.entries [utf8 "d"])) := by
    apply (List.perm_ext_iff_of_nodup hnodup ((wellFormed_shelf.nodup_entries _).filter _)).mpr
    intro e
    rw [hmem, ← wellFormed_shelf.mem_entries_iff]
    exact mem_shown_iff.symm
  have distinct : ((lines.map (itemOf shelf [utf8 "d"])).map
      fun i => Text.lowercase i.shown).Nodup := by
    apply ((hlines.map _).map _).nodup_iff.mpr
    decide +kernel
  refine ⟨wellFormed_shelf, lines, hlines, ?_⟩
  intro u hp
  rw [horder distinct u hp, hrender]

section Brink
variable {l : Location} {s : Name}

/-- Where the path of a directory still fits and that of the one below it does not, the one
below is shown as if it were none. -/
theorem render_shaft (names : ∀ x ∈ l ++ [s], Plain x ∧ 0 ∉ x)
    (fits : Path.textLength l ≤ maxPathLength)
    (long : maxPathLength < Path.textLength (l ++ [s])) (display : String) :
    render (shaft (l ++ [s])) l display [] =
      .ok (page display [⟨Utf8.lossy s, Utf8.lossy s⟩]) := by
  have wf := wellFormed_shaft names
  have found := resolve_shaft names (List.prefix_append l [s]) fits
  have directory : (shaft (l ++ [s])).at? l = some .directory :=
    at?_shaft (List.prefix_append l [s])
  have listed : ListedAs (shaft (l ++ [s])) l (s, .directory)
      (itemOf (shaft (l ++ [s])) l (s, .directory)) :=
    listedAs_itemOf wf found directory (at?_shaft List.prefix_rfl)
  have nowhere : ¬∃ m, (shaft (l ++ [s])).resolve (l ++ [s]) = .ok m ∧
      (shaft (l ++ [s])).at? m = some .directory := by
    rintro ⟨m, hm, _⟩
    exact Nat.not_lt.mpr (acceptPath_eq_ok_iff.mp (resolve_eq_ok_iff.mp hm).1).2 long
  have hitem : itemOf (shaft (l ++ [s])) l (s, .directory) = ⟨Utf8.lossy s, Utf8.lossy s⟩ :=
    congrArg₂ Item.mk (listed.too_long rfl long) (listed.leads_elsewhere nowhere).1
  have hshown : shown (shaft (l ++ [s])) l [] [(s, .directory)] = [(s, .directory)] :=
    List.filter_eq_self.mpr fun e _ => by
      rw [Bool.not_eq_true', isHidden_eq_false_iff]
      simp
  rw [render_of_resolve found directory, entries_shaft names, hshown, List.map_singleton, hitem,
    List.perm_singleton.mp (sort_perm _)]

/-- A directory is shown without a slash, though it is no link. -/
theorem directory_past_the_longest_path_has_no_slash :
    let dir := List.replicate 15 longName
    let t := shaft (dir ++ [longName])
    t.WellFormed ∧ t.resolve dir = .ok dir ∧ t.at? (dir ++ [longName]) = some .directory ∧
      ∃ html, render t dir "/" [] = .ok html ∧
        links html = [⟨Utf8.lossy longName, Utf8.lossy longName⟩] ∧
        ∀ i ∈ links html, i.shown ≠ Utf8.lossy longName ++ "/" := by
  intro dir t
  have names : ∀ x ∈ dir ++ [longName], Plain x ∧ 0 ∉ x := by
    intro x hx
    obtain rfl : x = longName := by
      rcases List.mem_append.mp hx with hx | hx
      · exact List.eq_of_mem_replicate hx
      · exact List.mem_singleton.mp hx
    exact ⟨plain_longName, fun h => absurd (List.eq_of_mem_replicate h) (by decide)⟩
  have hlength : Path.textLength dir = 15 * 256 := by
    rw [Path.textLength_replicate, longName, List.length_replicate]
    rfl
  have fits : Path.textLength dir ≤ maxPathLength := by
    rw [hlength]
    decide
  have long : maxPathLength < Path.textLength (dir ++ [longName]) := by
    rw [Path.textLength_append, hlength, Path.textLength, Path.textLength, longName,
      List.length_replicate]
    decide
  have hlinks := links_page "/" [⟨Utf8.lossy longName, Utf8.lossy longName⟩]
  refine ⟨wellFormed_shaft names, resolve_shaft names (List.prefix_append _ _) fits,
    at?_shaft List.prefix_rfl, _, render_shaft names fits long "/", hlinks, ?_⟩
  intro i hi heq
  rw [hlinks] at hi
  obtain rfl := List.mem_singleton.mp hi
  have hlengths := congrArg String.length heq
  simp [String.length_append] at hlengths

end Brink

end Listing

end DocRoot
