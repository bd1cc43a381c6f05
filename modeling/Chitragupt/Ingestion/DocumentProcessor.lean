import Chitragupt.Ingestion.Chunker
import Chitragupt.Lib.Sections

/-!
# Text extraction

A document becomes a list of pages.  A DOCX document has a page for each run of body
paragraphs between two headings; the loop of the source keeps the run in a buffer and the
title of its section in a variable.
-/

namespace Chitragupt

open Python (PyError)

/-- A paragraph of a DOCX document, with the name of its style. -/
structure DocxParagraph where
  style : Text
  text : Text

namespace DocxParagraph

variable (paragraph : DocxParagraph)

def isHeading : Bool := (Text.ofString "Heading").isPrefixOf paragraph.style

def stripped : Text := Python.strip paragraph.text

end DocxParagraph

/-- The parsing libraries that are installed, by what they read out of a file, and the UTF-8
decoder with replacement characters. -/
structure DocumentProcessor where
  pypdf : Option (List UInt8 → Except PyError (List (Option Text)))
  docx : Option (List UInt8 → Except PyError (List DocxParagraph))
  decodeUtf8 : List UInt8 → Text

namespace DocumentProcessor

def emptyPage : RawPage where
  text := []
  pageNumber := 1

/-- The state of the loop over the paragraphs. -/
structure Extraction where
  pages : List RawPage := []
  currentSection : Option Text := none
  buffer : List Text := []

namespace Extraction

variable (extraction : Extraction)

def flush : Extraction :=
  if extraction.buffer = [] then extraction
  else
    { extraction with
      pages := extraction.pages ++
        [{ text := List.intercalate (Text.ofString "\n") extraction.buffer
           pageNumber := extraction.pages.length + 1
           sectionTitle := extraction.currentSection }]
      buffer := [] }

/-- One round of the loop.  A blank heading keeps the title. -/
def visit (paragraph : DocxParagraph) : Extraction :=
  if paragraph.isHeading then
    { extraction.flush with
      currentSection :=
        if paragraph.stripped = [] then extraction.currentSection else some paragraph.stripped }
  else if paragraph.stripped ≠ [] then
    { extraction with buffer := extraction.buffer ++ [paragraph.text] }
  else
    extraction

end Extraction

/-- The pages of an opened DOCX document. -/
def docxPages (paragraphs : List DocxParagraph) : List RawPage :=
  let pages := (paragraphs.foldl Extraction.visit {}).flush.pages
  if pages = [] then [emptyPage] else pages

variable (processor : DocumentProcessor)

def extractDocx (content : List UInt8) : Except PyError (List RawPage) :=
  match processor.docx with
  | none => .ok [{ text := processor.decodeUtf8 content, pageNumber := 1 }]
  | some docx => (docx content).map docxPages

/-- The pages of a PDF document with text on them, under their numbers in the document. -/
def pdfPages (texts : List (Option Text)) : List RawPage :=
  let pages := (texts.zipIdx.map fun (text, index) =>
    ({ text := Python.strip (text.getD []), pageNumber := index + 1 } : RawPage)).filter
      fun page => page.text ≠ []
  if pages = [] then [emptyPage] else pages

def extractPdf (content : List UInt8) : Except PyError (List RawPage) :=
  match processor.pypdf with
  | none => .ok [{ text := content.map UInt8.toNat, pageNumber := 1 }]
  | some pypdf => (pypdf content).map pdfPages

/-- The part of a file name after the last dot, in lower case. -/
def extension (filename : String) : Text :=
  if '.' ∈ filename.toList then
    let suffix := (filename.toList.reverse.takeWhile (· ≠ '.')).reverse
    Text.lower (Text.ofString (String.ofList suffix))
  else
    []

def process (content : List UInt8) (filename : String) : Except PyError (List RawPage) :=
  let ext := extension filename
  if ext = Text.ofString "pdf" then processor.extractPdf content
  else if ext = Text.ofString "docx" ∨ ext = Text.ofString "doc" then
    processor.extractDocx content
  else .ok [{ text := processor.decodeUtf8 content, pageNumber := 1 }]

/-! ## The runs of a document -/

/-- The title of the latest heading that is not blank. -/
def latestTitle (headings : List DocxParagraph) : Option Text :=
  ((headings.map DocxParagraph.stripped).filter (· ≠ [])).getLast?

/-- The texts of a section that are not blank. -/
def bodyTexts (body : List DocxParagraph) : List Text :=
  (body.filter (·.stripped ≠ [])).map DocxParagraph.text

/-- The runs of body paragraphs between headings: the title in front of each and its texts. -/
def runs (paragraphs : List DocxParagraph) : List (Option Text × List Text) :=
  ((Sections.sections DocxParagraph.isHeading paragraphs).map fun (headings, body) =>
    (latestTitle headings, bodyTexts body)).filter (·.2 ≠ [])

/-- The runs as pages, the first one under this number. -/
def pagesOfRuns (number : Nat) (runs : List (Option Text × List Text)) : List RawPage :=
  runs.zipIdx.map fun (run, index) =>
    { text := List.intercalate (Text.ofString "\n") run.2
      pageNumber := number + index
      sectionTitle := run.1 }

@[simp] theorem pagesOfRuns_nil (number : Nat) : pagesOfRuns number [] = [] := rfl

theorem pagesOfRuns_append (number : Nat) (left right : List (Option Text × List Text)) :
    pagesOfRuns number (left ++ right) =
      pagesOfRuns number left ++ pagesOfRuns (number + left.length) right := by
  simp only [pagesOfRuns, List.zipIdx_append, List.map_append, Nat.zero_add]
  refine congrArg _ ?_
  rw [List.zipIdx_eq_map_add, List.map_map]
  refine List.map_congr_left fun entry _ => ?_
  simp only [Function.comp_apply, Nat.cast_add]
  congr 1
  omega

@[simp] theorem length_pagesOfRuns (number : Nat) (runs : List (Option Text × List Text)) :
    (pagesOfRuns number runs).length = runs.length := by
  rw [pagesOfRuns, List.length_map, List.length_zipIdx]

/-- One run, if it has a text. -/
def run (title : Option Text) (texts : List Text) : List (Option Text × List Text) :=
  [(title, texts)].filter (·.2 ≠ [])

/-- The runs of the rest of a document, with a title and a buffer from the part before. -/
def runsFrom (title : Option Text) (buffer : List Text) (paragraphs : List DocxParagraph) :
    List (Option Text × List Text) :=
  (((Sections.sections DocxParagraph.isHeading paragraphs).map fun (headings, body) =>
    ((latestTitle headings).or title, bodyTexts body)).modifyHead fun (title, texts) =>
      (title, buffer ++ texts)).filter (·.2 ≠ [])

/-- An empty buffer changes nothing. -/
theorem modifyHead_nil_append (entries : List (Option Text × List Text)) :
    entries.modifyHead (fun (title, texts) => (title, [] ++ texts)) = entries := by
  cases entries <;> rfl

theorem runsFrom_start (paragraphs : List DocxParagraph) :
    runsFrom none [] paragraphs = runs paragraphs := by
  rw [runsFrom, runs, modifyHead_nil_append]
  simp only [Option.or_none]

theorem runsFrom_nil (title : Option Text) (buffer : List Text) :
    runsFrom title buffer [] = run title buffer := by
  simp [runsFrom, run, latestTitle, bodyTexts]

section Step

variable {paragraph : DocxParagraph} {paragraphs : List DocxParagraph}
variable {title : Option Text} {buffer : List Text}

theorem latestTitle_cons (headings : List DocxParagraph) :
    (latestTitle (paragraph :: headings)).or title =
      (latestTitle headings).or
        (if paragraph.stripped = [] then title else some paragraph.stripped) := by
  by_cases blank : paragraph.stripped = []
  · simp [latestTitle, blank]
  · rw [if_neg blank, latestTitle, List.map_cons, List.filter_cons_of_pos (by simpa using blank),
      List.getLast?_cons]
    rw [← latestTitle]
    cases latestTitle headings <;> rfl

theorem bodyTexts_cons (body : List DocxParagraph) :
    bodyTexts (paragraph :: body) = bodyTexts [paragraph] ++ bodyTexts body := by
  rw [bodyTexts, bodyTexts, bodyTexts, ← List.map_append, ← List.filter_append]
  rfl

/-- A heading ends the buffered run and gives the next one its title. -/
theorem runsFrom_heading (heading : paragraph.isHeading = true) :
    runsFrom title buffer (paragraph :: paragraphs) =
      run title buffer ++ runsFrom
        (if paragraph.stripped = [] then title else some paragraph.stripped) [] paragraphs := by
  rw [runsFrom, Sections.sections_cons_head heading, List.map_cons, List.modifyHead_cons,
    List.map_map, ← List.singleton_append, List.filter_append, runsFrom]
  refine congrArg₂ _ ?_ (congrArg _ ?_)
  · simp [run, latestTitle, bodyTexts]
  · rw [modifyHead_nil_append]
    refine List.map_congr_left fun entry _ => ?_
    exact Prod.ext (latestTitle_cons entry.1) rfl

/-- A body paragraph goes to the buffer, unless it is blank. -/
theorem runsFrom_body (body : paragraph.isHeading = false) :
    runsFrom title buffer (paragraph :: paragraphs) =
      runsFrom title (buffer ++ bodyTexts [paragraph]) paragraphs := by
  obtain ⟨texts, rest, split⟩ :=
    Sections.exists_sections DocxParagraph.isHeading paragraphs
  rw [runsFrom, runsFrom, Sections.sections_cons_body body, split]
  simp only [List.modifyHead_cons, List.map_cons]
  rw [bodyTexts_cons, List.append_assoc]

end Step

namespace Extraction

variable (extraction : Extraction)

theorem pages_flush :
    extraction.flush.pages = extraction.pages ++
      pagesOfRuns (extraction.pages.length + 1)
        (run extraction.currentSection extraction.buffer) := by
  by_cases empty : extraction.buffer = []
  · simp [flush, run, empty]
  · simp [flush, run, empty, pagesOfRuns]

/-- The loop appends the runs of the paragraphs, the buffered one first. -/
theorem pages_foldl_visit (paragraphs : List DocxParagraph) :
    (paragraphs.foldl visit extraction).flush.pages = extraction.pages ++
      pagesOfRuns (extraction.pages.length + 1)
        (runsFrom extraction.currentSection extraction.buffer paragraphs) := by
  induction paragraphs generalizing extraction with
  | nil => rw [List.foldl_nil, runsFrom_nil, pages_flush]
  | cons paragraph paragraphs ih =>
      rw [List.foldl_cons, ih]
      cases heading : paragraph.isHeading with
      | true =>
          have visited : extraction.visit paragraph = { extraction.flush with
              currentSection := if paragraph.stripped = [] then extraction.currentSection
                else some paragraph.stripped } := if_pos heading
          have buffer : extraction.flush.buffer = [] := by
            rw [flush]
            split
            next empty => exact empty
            next => rfl
          rw [visited, runsFrom_heading heading, pagesOfRuns_append, ← List.append_assoc,
            ← pages_flush]
          simp only [buffer]
          rw [pages_flush, List.length_append, length_pagesOfRuns, Nat.add_right_comm]
      | false =>
          have visited : extraction.visit paragraph =
              { extraction with buffer := extraction.buffer ++ bodyTexts [paragraph] } := by
            by_cases blank : paragraph.stripped = []
            · simp [visit, heading, blank, bodyTexts]
            · simp [visit, heading, blank, bodyTexts]
          rw [visited, runsFrom_body heading]

end Extraction

/-- The runs hold the text of every body paragraph that is not blank, in order. -/
theorem flatMap_runs (paragraphs : List DocxParagraph) :
    (runs paragraphs).flatMap Prod.snd =
      bodyTexts (paragraphs.filter fun paragraph => !paragraph.isHeading) := by
  have dropEmpty (entries : List (Option Text × List Text)) :
      (entries.filter (·.2 ≠ [])).flatMap Prod.snd = entries.flatMap Prod.snd := by
    induction entries with
    | nil => rfl
    | cons entry entries ih =>
        by_cases empty : entry.2 = []
        · simpa [empty] using ih
        · simpa [empty] using ih
  rw [runs, dropEmpty]
  induction paragraphs with
  | nil => rfl
  | cons paragraph paragraphs ih =>
      cases heading : paragraph.isHeading with
      | true =>
          rw [Sections.sections_cons_head heading, List.filter_cons_of_neg (by simp [heading]),
            ← ih, List.map_cons, List.map_map, List.flatMap_cons]
          simp only [List.flatMap_map, Function.comp_apply]
          rfl
      | false =>
          obtain ⟨texts, rest, split⟩ :=
            Sections.exists_sections DocxParagraph.isHeading paragraphs
          rw [split] at ih
          rw [Sections.sections_cons_body heading, split,
            List.filter_cons_of_pos (by simp [heading]), bodyTexts_cons, ← ih]
          simp only [List.modifyHead_cons, List.map_cons, List.flatMap_cons]
          rw [bodyTexts_cons, List.append_assoc]

/-- The pages of a DOCX document are its runs, numbered from one, each under the title of the
latest heading in front of it; a document without a run gives the empty page.  The runs lose
no text. -/
theorem extractDocx_eq (docx : List UInt8 → Except PyError (List DocxParagraph))
    (content : List UInt8) :
    ({ processor with docx := some docx } : DocumentProcessor).extractDocx content =
        (docx content).map (fun paragraphs =>
          if runs paragraphs = [] then [emptyPage] else pagesOfRuns 1 (runs paragraphs)) ∧
      ∀ paragraphs, (runs paragraphs).flatMap Prod.snd =
        bodyTexts (paragraphs.filter fun paragraph => !paragraph.isHeading) := by
  refine ⟨?_, flatMap_runs⟩
  have pages : docxPages = fun paragraphs =>
      if runs paragraphs = [] then [emptyPage] else pagesOfRuns 1 (runs paragraphs) := by
    funext paragraphs
    rw [docxPages, Extraction.pages_foldl_visit]
    simp only [List.nil_append, List.length_nil, Nat.zero_add, runsFrom_start]
    refine if_congr ?_ rfl rfl
    rw [← List.length_eq_zero_iff, length_pagesOfRuns, List.length_eq_zero_iff]
  rw [extractDocx, pages]

end DocumentProcessor

end Chitragupt
