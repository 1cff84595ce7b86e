import DocRoot.Listing
import DocRoot.Proofs.Html
import DocRoot.Proofs.Percent

/-!
# A listing is read back from its page

Whatever the path and the names are, the tags of the page are those of its frame and of one line
for each item, and the texts between them say the path and the items. So a page tells what it
was made of.
-/

set_option autoImplicit false

namespace DocRoot

/-- What a link may be written in: letters, digits, a few marks that need no escape, the slash,
and escapes. -/
inductive Percent.LinkText : List Char → Prop
  | nil : LinkText []
  | plain {c : Char} {cs : List Char} : c.isAlphanum = true ∨ c ∈ "_.-~/".toList →
      LinkText cs → LinkText (c :: cs)
  | escape {hi lo : Char} {cs : List Char} : hi ∈ "0123456789ABCDEF".toList →
      lo ∈ "0123456789ABCDEF".toList → LinkText cs → LinkText ('%' :: hi :: lo :: cs)

namespace Percent

theorem isAlphanum_of_isLinkSafe {b : UInt8} (h : isLinkSafe b = true) :
    (Char.ofNat b.toNat).isAlphanum = true ∨ Char.ofNat b.toNat ∈ "_.-~/".toList := by
  have all : ∀ k : Fin 256, isLinkSafe (.ofNat k) = true →
      (Char.ofNat k).isAlphanum = true ∨ Char.ofNat k ∈ "_.-~/".toList := by
    decide +kernel
  simpa using all ⟨b.toNat, b.toNat_lt⟩ (by simpa using h)

theorem mem_digits_upperHexDigit {n : UInt8} (h : n < 16) :
    Char.ofNat (upperHexDigit n).toNat ∈ "0123456789ABCDEF".toList := by
  have all : ∀ k : Fin 16,
      Char.ofNat (upperHexDigit (.ofNat k)).toNat ∈ "0123456789ABCDEF".toList := by
    decide
  simpa using all ⟨n.toNat, by simpa [UInt8.lt_iff_toNat_lt] using h⟩

theorem linkText_text (s : String) : LinkText (text s).toList := by
  rw [text, String.toList_ofList]
  induction utf8 s with
  | nil => exact .nil
  | cons b bs ih =>
    rw [encode_cons, List.map_append, encodeByte]
    split
    · rename_i hsafe
      exact .plain (isAlphanum_of_isLinkSafe hsafe) ih
    · exact .escape (mem_digits_upperHexDigit (div_lt b)) (mem_digits_upperHexDigit (mod_lt b)) ih

/-- A link does not end its tag. -/
theorem LinkText.allText {cs : List Char} (h : LinkText cs) : Html.AllText cs := by
  have hdigit : Html.AllText "0123456789ABCDEF".toList := by decide
  induction h with
  | nil => exact List.forall_mem_nil _
  | plain hc _ ih =>
    refine List.forall_mem_cons.mpr ⟨⟨?_, ?_⟩, ih⟩
    · rintro rfl
      exact absurd hc (by decide)
    · rintro rfl
      exact absurd hc (by decide)
  | escape hhi hlo _ ih =>
    simp only [Html.AllText, List.forall_mem_cons]
    exact ⟨by decide, hdigit _ hhi, hdigit _ hlo, ih⟩

/-- Nor does it end its attribute. -/
theorem LinkText.quote_not_mem {cs : List Char} (h : LinkText cs) : '"' ∉ cs := by
  induction h with
  | nil => exact List.not_mem_nil
  | plain hc _ ih =>
    rw [List.mem_cons, not_or]
    refine ⟨?_, ih⟩
    rintro rfl
    exact absurd hc (by decide)
  | escape hhi hlo _ ih =>
    simp only [List.mem_cons, not_or]
    refine ⟨by decide, ?_, ?_, ih⟩
    · rintro rfl
      exact absurd hhi (by decide)
    · rintro rfl
      exact absurd hlo (by decide)

end Percent

namespace Listing

open Html

/-- The title of a page. -/
def heading (display : String) : String := "Directory listing for " ++ display

section Frame

def top : List Mark :=
  [⟨"!DOCTYPE HTML", "\n"⟩, ⟨"html lang=\"en\"", "\n"⟩, ⟨"head", "\n"⟩,
    ⟨"meta charset=\"utf-8\"", "\n"⟩]

def middle : List Mark := [⟨"/title", "\n"⟩, ⟨"/head", "\n"⟩, ⟨"body", "\n"⟩]

def rule : List Mark := [⟨"/h1", "\n"⟩, ⟨"hr", "\n"⟩, ⟨"ul", "\n"⟩]

def line (href shown : String) : List Mark :=
  [⟨"li", ""⟩, ⟨"a href=\"" ++ href ++ "\"", shown⟩, ⟨"/a", ""⟩, ⟨"/li", "\n"⟩]

def bottom : List Mark := [⟨"/ul", "\n"⟩, ⟨"hr", "\n"⟩, ⟨"/body", "\n"⟩, ⟨"/html", "\n"⟩]

/-- The marks of a page with these texts in their places, as they are. -/
def template (title : String) (lines : List (String × String)) : List Mark :=
  top ++ ⟨"title", title⟩ :: middle ++ ⟨"h1", title⟩ :: rule
    ++ (lines.flatMap fun l => line l.1 l.2) ++ bottom

end Frame

/-- The marks of the page that lists these items. -/
def pageMarks (display : String) (items : List Item) : List Mark :=
  template (escape (heading display)) (items.map fun i => (i.href, escape i.shown))

section Writing
variable (display : String) (items : List Item)

theorem writeAll_line (i : Item) : writeAll (line i.href (escape i.shown)) = i.html := by
  have hfront : "<li><a href=\"" = "<li>" ++ ("<" ++ "a href=\"") := by decide
  have hclose : "\">" = "\"" ++ ">" := by decide
  have hback : "</a></li>\n" = "</a>" ++ "</li>\n" := by decide
  have hhtml : i.html = "<li><a href=\"" ++ i.href ++ "\">" ++ escape i.shown ++ "</a></li>\n" :=
    rfl
  simp only [line, writeAll_cons, writeAll_nil, Mark.write, String.append_empty]
  rw [hhtml, hfront, hclose, hback]
  ac_rfl

theorem writeAll_lines :
    writeAll ((items.map fun i => (i.href, escape i.shown)).flatMap fun l => line l.1 l.2) =
      String.join (items.map Item.html) := by
  induction items with
  | nil => rfl
  | cons i items ih =>
    rw [List.map_cons, List.flatMap_cons, writeAll_append, ih, writeAll_line, List.map_cons,
      String.join_cons]

theorem escape_heading :
    escape (heading display) = "Directory listing for " ++ escape display := by
  have hplain : escape "Directory listing for " = "Directory listing for " := by decide +kernel
  exact (escape_append _ _).trans (congrArg (· ++ _) hplain)

theorem page_eq_writeAll : page display items = writeAll (pageMarks display items) := by
  have htop : "<!DOCTYPE HTML>\n<html lang=\"en\">\n<head>\n<meta charset=\"utf-8\">\n<title>" =
      writeAll top ++ "<title>" := by decide +kernel
  have hmiddle : "</title>\n</head>\n<body>\n<h1>" = writeAll middle ++ "<h1>" := by
    decide +kernel
  have hrule : "</h1>\n<hr>\n<ul>\n" = writeAll rule := by decide +kernel
  have hbottom : "</ul>\n<hr>\n</body>\n</html>\n" = writeAll bottom := by decide +kernel
  have htitle : "<title>" = "<" ++ "title" ++ ">" := by decide
  have hh1 : "<h1>" = "<" ++ "h1" ++ ">" := by decide
  have hpage : page display items =
      "<!DOCTYPE HTML>\n<html lang=\"en\">\n<head>\n<meta charset=\"utf-8\">\n<title>"
        ++ ("Directory listing for " ++ escape display) ++ "</title>\n</head>\n<body>\n<h1>"
        ++ ("Directory listing for " ++ escape display) ++ "</h1>\n<hr>\n<ul>\n"
        ++ String.join (items.map Item.html) ++ "</ul>\n<hr>\n</body>\n</html>\n" := rfl
  rw [hpage, ← escape_heading, htop, hmiddle, hrule, hbottom, htitle, hh1, ← writeAll_lines]
  simp only [pageMarks, template, writeAll_append, writeAll_cons, Mark.write]
  ac_rfl

theorem closed_line (i : Item) : ∀ m ∈ line i.href (escape i.shown), m.Closed := by
  have hlink : AllText i.href.toList := (Percent.linkText_text i.link).allText
  have hname : AllText "a href=\"".toList := by decide
  have hquote : AllText "\"".toList := by decide
  have hanchor : Mark.Closed ⟨"a href=\"" ++ i.href ++ "\"", escape i.shown⟩ := by
    refine ⟨?_, allText_escape i.shown⟩
    simp only [AllText, String.toList_append, List.forall_mem_append]
    exact ⟨⟨hname, hlink⟩, hquote⟩
  simp only [line, List.forall_mem_cons]
  exact ⟨by decide, hanchor, by decide, by decide, by simp⟩

theorem closed_pageMarks : ∀ m ∈ pageMarks display items, m.Closed := by
  have htitle : ∀ tag : String, AllText tag.toList →
      Mark.Closed ⟨tag, escape (heading display)⟩ :=
    fun tag htag => ⟨htag, allText_escape _⟩
  have hlines : ∀ m ∈ (items.map fun i => (i.href, escape i.shown)).flatMap
      fun l => line l.1 l.2, m.Closed := by
    intro m hm
    obtain ⟨l, hl, hm⟩ := List.mem_flatMap.mp hm
    obtain ⟨i, _, rfl⟩ := List.mem_map.mp hl
    exact closed_line i m hm
  have hframe : ∀ m ∈ top ++ middle ++ rule ++ bottom, m.Closed := by decide
  simp only [List.forall_mem_append] at hframe
  obtain ⟨⟨⟨htop, hmiddle⟩, hrule⟩, hbottom⟩ := hframe
  simp only [pageMarks, template, List.forall_mem_append, List.forall_mem_cons]
  exact ⟨⟨⟨⟨htop, htitle "title" (by decide), hmiddle⟩, htitle "h1" (by decide), hrule⟩, hlines⟩,
    hbottom⟩

theorem marks_page : marks (page display items) = pageMarks display items := by
  rw [page_eq_writeAll, marks_writeAll (closed_pageMarks display items)]

theorem length_pageMarks : (pageMarks display items).length = 16 + 4 * items.length := by
  have hlines : ((items.map fun i => (i.href, escape i.shown)).flatMap
      fun l => line l.1 l.2).length = 4 * items.length := by
    induction items with
    | nil => rfl
    | cons i items ih =>
      rw [List.map_cons, List.flatMap_cons, List.length_append, ih, List.length_cons]
      simp only [line, List.length_cons, List.length_nil]
      omega
  simp only [pageMarks, template, List.length_append, List.length_cons, hlines, top, middle, rule,
    bottom, List.length_nil]
  omega

end Writing

section Reading

/-- What a heading says, if the mark is one. -/
def title? (m : Mark) : Option String :=
  if m.tag = "title" ∨ m.tag = "h1" then some (unescape m.text) else none

/-- The item that a mark shows, if it is a link. -/
def item? (m : Mark) : Option Item :=
  match m.tag.toList.splitOn '"' with
  | [name, href, []] =>
    if name = "a href=".toList then
      (Utf8.text? (Percent.decode (Utf8.encode href))).map fun link => ⟨unescape m.text, link⟩
    else none
  | _ => none

/-- What the headings of a page say. -/
def titles (page : String) : List String := (marks page).filterMap title?

/-- The items that a page shows, from the first to the last. -/
def links (page : String) : List Item := (marks page).filterMap item?

variable (display : String) (items : List Item)

theorem title?_anchor (i : Item) :
    title? ⟨"a href=\"" ++ i.href ++ "\"", escape i.shown⟩ = none := by
  have hne : ∀ tag : String, tag.toList.head? ≠ some 'a' →
      "a href=\"" ++ i.href ++ "\"" ≠ tag := by
    rintro _ htag rfl
    simp at htag
  rw [title?, if_neg]
  rintro (h | h)
  · exact hne "title" (by decide) h
  · exact hne "h1" (by decide) h

theorem item?_anchor (i : Item) :
    item? ⟨"a href=\"" ++ i.href ++ "\"", escape i.shown⟩ = some i := by
  have hquote : '"' ∉ i.href.toList := (Percent.linkText_text i.link).quote_not_mem
  have htag : ("a href=\"" ++ i.href ++ "\"").toList =
      "a href=".toList ++ '"' :: (i.href.toList ++ '"' :: []) := by
    simp
  have hsplit : ("a href=\"" ++ i.href ++ "\"").toList.splitOn '"' =
      ["a href=".toList, i.href.toList, []] := by
    rw [htag, List.splitOn_append_cons_self_of_not_mem (by decide),
      List.splitOn_append_cons_self_of_not_mem hquote]
    rfl
  have hlink : Utf8.text? (Percent.decode (Utf8.encode i.href.toList)) = some i.link := by
    have hhref : Utf8.encode i.href.toList = Percent.encode (utf8 i.link) :=
      Percent.utf8_text i.link
    rw [hhref, Percent.decode_encode, text?_utf8]
  simp only [item?, hsplit, hlink, unescape_escape, if_true, Option.map_some]

/-- A reader that finds nothing in the frame finds what it finds in the headings and lines. -/
theorem filterMap_pageMarks {α : Type} {f : Mark → Option α}
    (frame : ∀ m ∈ top ++ middle ++ rule ++ bottom, f m = none) :
    (pageMarks display items).filterMap f =
      (f ⟨"title", escape (heading display)⟩).toList ++
        (f ⟨"h1", escape (heading display)⟩).toList ++
        items.flatMap fun i => (line i.href (escape i.shown)).filterMap f := by
  simp only [List.forall_mem_append] at frame
  obtain ⟨⟨⟨htop, hmiddle⟩, hrule⟩, hbottom⟩ := frame
  have hlines : ((items.map fun i => (i.href, escape i.shown)).flatMap
      fun l => line l.1 l.2).filterMap f =
      items.flatMap fun i => (line i.href (escape i.shown)).filterMap f := by
    rw [List.flatMap_map, List.filterMap_flatMap]
  have hcons : ∀ m ms, (m :: ms).filterMap f = (f m).toList ++ ms.filterMap f := by
    intro m ms
    rw [List.filterMap_cons]
    cases f m <;> rfl
  simp only [pageMarks, template, List.filterMap_append, hcons, hlines,
    List.filterMap_eq_nil_iff.mpr htop, List.filterMap_eq_nil_iff.mpr hmiddle,
    List.filterMap_eq_nil_iff.mpr hrule, List.filterMap_eq_nil_iff.mpr hbottom, List.nil_append,
    List.append_nil]

theorem titles_page : titles (page display items) = [heading display, heading display] := by
  have hline : ∀ i : Item, (line i.href (escape i.shown)).filterMap title? = [] := by
    intro i
    simp only [line, List.filterMap_cons, title?_anchor]
    rfl
  have hheading : ∀ tag, tag = "title" ∨ tag = "h1" →
      title? ⟨tag, escape (heading display)⟩ = some (heading display) := by
    intro tag htag
    rw [title?, if_pos htag, unescape_escape]
  rw [titles, marks_page, filterMap_pageMarks display items (by decide),
    hheading "title" (Or.inl rfl), hheading "h1" (Or.inr rfl)]
  simp only [hline, List.flatMap_eq_nil_iff.mpr fun _ _ => rfl]
  rfl

theorem links_page : links (page display items) = items := by
  have hline : ∀ i : Item, (line i.href (escape i.shown)).filterMap item? = [i] := by
    intro i
    simp only [line, List.filterMap_cons, item?_anchor]
    rfl
  have hheading : ∀ tag text : String, '"' ∉ tag.toList → item? ⟨tag, text⟩ = none := by
    intro tag text htag
    rw [item?, List.splitOn_eq_singleton htag]
  rw [links, marks_page, filterMap_pageMarks display items (by decide),
    hheading "title" _ (by decide), hheading "h1" _ (by decide)]
  simp only [hline, Option.toList_none, List.nil_append, List.flatMap_singleton']

theorem page_injective {display display' : String} {items items' : List Item}
    (h : page display items = page display' items') : display = display' ∧ items = items' := by
  have htitles := congrArg titles h
  have hlinks := congrArg links h
  rw [titles_page, titles_page] at htitles
  rw [links_page, links_page] at hlinks
  refine ⟨?_, hlinks⟩
  have hheading : heading display = heading display' := (List.cons.inj htitles).1
  exact String.append_right_inj _ |>.mp hheading

end Reading

section Entries

/-- What a listing says of an entry. -/
structure Entry where
  name : String
  isLink : Bool
  leadsToDirectory : Bool
  deriving DecidableEq

def Entry.item (e : Entry) : Item := Item.ofEntry e.name e.isLink e.leadsToDirectory

variable {e e' : Entry}

/-- A slash is in no name, so it is in a link only if it has been added. -/
theorem Entry.slash_mem_link_iff (h : '/' ∉ e.name.toList) :
    '/' ∈ e.item.link.toList ↔ e.leadsToDirectory = true := by
  have hlink : e.item.link = if e.leadsToDirectory then e.name ++ "/" else e.name := rfl
  rw [hlink]
  split
  · rename_i hleads
    simp [hleads]
  · rename_i hleads
    exact iff_of_false h hleads

theorem Entry.at_sign_ne_link (e : Entry) : e.name ++ "@" ≠ e.item.link := by
  have hlink : e.item.link = if e.leadsToDirectory then e.name ++ "/" else e.name := rfl
  intro h
  have hchars := congrArg String.toList h
  rw [hlink] at hchars
  split at hchars <;> simp at hchars

/-- An item tells the name and the kind of its entry. -/
theorem Entry.item_injective (he : '/' ∉ e.name.toList) (he' : '/' ∉ e'.name.toList)
    (h : e.item = e'.item) : e = e' := by
  have hleads : e.leadsToDirectory = e'.leadsToDirectory := by
    rw [Bool.eq_iff_iff, ← e.slash_mem_link_iff he, ← e'.slash_mem_link_iff he', h]
  have hname : e.name = e'.name := by
    have hlink : (if e.leadsToDirectory then e.name ++ "/" else e.name) =
        if e'.leadsToDirectory then e'.name ++ "/" else e'.name := congrArg Item.link h
    rw [← hleads] at hlink
    split at hlink
    · exact (String.append_left_inj _).mp hlink
    · exact hlink
  have hshown : (if e.isLink then e.name ++ "@" else e.item.link) =
      if e'.isLink then e'.name ++ "@" else e'.item.link := congrArg Item.shown h
  have hkind : e.isLink = e'.isLink := by
    cases hl : e.isLink <;> cases hl' : e'.isLink
    · rfl
    · simp only [hl, hl', if_true, Bool.false_eq_true, if_false, h] at hshown
      exact absurd hshown.symm e'.at_sign_ne_link
    · simp only [hl, hl', if_true, Bool.false_eq_true, if_false, ← h] at hshown
      exact absurd hshown e.at_sign_ne_link
    · rfl
  obtain ⟨name, isLink, leads⟩ := e
  obtain ⟨name', isLink', leads'⟩ := e'
  simp only at hleads hname hkind
  rw [hleads, hname, hkind]

theorem Entry.items_injective {entries entries' : List Entry}
    (names : ∀ e ∈ entries ++ entries', '/' ∉ e.name.toList)
    (h : entries.map Entry.item = entries'.map Entry.item) : entries = entries' := by
  induction entries generalizing entries' with
  | nil => exact (List.map_eq_nil_iff.mp h.symm).symm
  | cons e entries ih =>
    cases entries' with
    | nil => cases h
    | cons e' entries' =>
      obtain ⟨hitem, hitems⟩ := List.cons.inj h
      have hrest : ∀ e ∈ entries ++ entries', '/' ∉ e.name.toList := by
        intro x hx
        apply names x
        rcases List.mem_append.mp hx with hx | hx
        · exact List.mem_append_left _ (List.mem_cons_of_mem _ hx)
        · exact List.mem_append_right _ (List.mem_cons_of_mem _ hx)
      have he := names e (List.mem_append_left _ List.mem_cons_self)
      have he' := names e' (List.mem_append_right _ List.mem_cons_self)
      rw [Entry.item_injective he he' hitem, ih hrest hitems]

end Entries

/-- Every page has the tags of its frame and of one line for each item, and no bracket besides.
Its links hold nothing but what needs no escape and escapes. The texts between the tags say the
path, twice, and the items in their order, so no two listings have the same page. -/
theorem page_tells_its_listing (display : String) (items : List Item) :
    Html.marks (page display items) =
        template (Html.escape (heading display))
          (items.map fun i => (i.href, Html.escape i.shown)) ∧
      Html.writeAll (Html.marks (page display items)) = page display items ∧
      (∀ m ∈ Html.marks (page display items), m.Closed) ∧
      (∀ c, ¬Html.IsText c → (page display items).toList.count c = 16 + 4 * items.length) ∧
      (∀ i ∈ items, Percent.LinkText i.href.toList) ∧
      titles (page display items) = [heading display, heading display] ∧
      links (page display items) = items ∧
      (∀ display' items', page display items = page display' items' →
        display = display' ∧ items = items') ∧
      ∀ display' (entries entries' : List Entry),
        (∀ e ∈ entries ++ entries', '/' ∉ e.name.toList) →
        page display (entries.map Entry.item) = page display' (entries'.map Entry.item) →
        display = display' ∧ entries = entries' := by
  have hmarks := marks_page display items
  have hwritten := page_eq_writeAll display items
  have hclosed := closed_pageMarks display items
  refine ⟨hmarks, ?_, ?_, ?_, ?_, titles_page display items, links_page display items, ?_, ?_⟩
  · rw [hmarks, hwritten]
  · rw [hmarks]
    exact hclosed
  · intro c hc
    rw [hwritten, count_writeAll hclosed hc, length_pageMarks]
  · intro i _
    exact Percent.linkText_text i.link
  · intro display' items' h
    exact page_injective h
  · intro display' entries entries' names h
    obtain ⟨hdisplay, hitems⟩ := page_injective h
    exact ⟨hdisplay, Entry.items_injective names hitems⟩

/-- A name of markup that leads to a directory, and a link with a quote and a line break. -/
def awkwardEntries : List Entry := [⟨"<b>&amp;", false, true⟩, ⟨"a\"\nü", true, false⟩]

theorem page_tells_its_listing_awkwardEntries :
    links (page "/<p>/" (awkwardEntries.map Entry.item)) =
        [⟨"<b>&amp;/", "<b>&amp;/"⟩, ⟨"a\"\nü@", "a\"\nü"⟩] ∧
      (page "/<p>/" (awkwardEntries.map Entry.item)).toList.count '<' = 24 ∧
      ∀ display entries, (∀ e ∈ entries, '/' ∉ e.name.toList) →
        page "/<p>/" (awkwardEntries.map Entry.item) = page display (entries.map Entry.item) →
        display = "/<p>/" ∧ entries = awkwardEntries := by
  have names : ∀ e ∈ awkwardEntries, '/' ∉ e.name.toList := by decide
  have items : awkwardEntries.map Entry.item =
      [⟨"<b>&amp;/", "<b>&amp;/"⟩, ⟨"a\"\nü@", "a\"\nü"⟩] := by
    decide
  obtain ⟨_, _, _, hcount, _, _, hlinks, _, hentries⟩ :=
    page_tells_its_listing "/<p>/" (awkwardEntries.map Entry.item)
  refine ⟨hlinks.trans items, hcount '<' (by decide), ?_⟩
  intro display entries hnames h
  have hall : ∀ e ∈ awkwardEntries ++ entries, '/' ∉ e.name.toList :=
    List.forall_mem_append.mpr ⟨names, hnames⟩
  obtain ⟨hdisplay, heq⟩ := hentries display awkwardEntries entries hall h
  exact ⟨hdisplay.symm, heq.symm⟩

end Listing

end DocRoot
