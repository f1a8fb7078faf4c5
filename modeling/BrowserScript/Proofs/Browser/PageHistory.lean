/-
BrowserScript.Proofs.Browser.PageHistory — which page is active after pages were opened, announced and closed in
any order.

Two things say which page is the newest one: the queue of announced pages and the list that the context keeps. They
need not agree. A page may be announced late, twice, in the place of another one or not at all, it may be closed or
dropped from the context again before the next look, and the cell may be synchronised at any time in between.

* `Happening` is one such thing, `Tabs.play` what is left of a cell and its browser after a history of them. An
  effect only changes the browser here; whether its pages are announced, and when, is a happening of its own.
* `ActivePage.switches`: the pages that a synchronising cell turns to, one after the other.
* `Tabs.play_quiet`: as long as nothing is synchronised, announcements wait and the cell shows the same page.
* `Tabs.SyncedFrom`: what synchronising makes of a cell.

Main statement: `Tabs.play_synced`. After any history, synchronising a cell that listens shows the newest open page
of the context, so that histories which leave the same pages open are followed by the same page. Without an open
page in a context, the newest announcement of an open page counts.
-/
import BrowserScript.Proofs.Browser.NewestPage

namespace BrowserScript.Browser

/-- Whether a page is open. -/
def World.isOpen (w : World) (page : String) : Bool := !(w.page page).closed

theorem World.mem_openPages {w : World} {page : String} :
    page ∈ w.openPages ↔ page ∈ w.context ∧ w.isOpen page = true := List.mem_filter

/-- Only the list of the context counts, and which of its pages are closed. -/
theorem World.openPages_congr {w w' : World} (hcontext : w'.context = w.context)
    (hclosed : ∀ page ∈ w.context, (w'.page page).closed = (w.page page).closed) :
    w'.openPages = w.openPages := by
  unfold openPages
  rw [hcontext]
  refine List.filter_congr fun page hpage => ?_
  rw [hclosed page hpage]

/-! ## §1 Synchronising -/

namespace ActivePage

theorem lastOpen_eq (w : World) (current : String) (pages : List String) :
    lastOpen w current pages = ((pages.filter w.isOpen).getLast?).getD current := by
  induction pages generalizing current with
  | nil => rfl
  | cons page rest ih =>
    rw [lastOpen, ih, List.filter_cons]
    cases hclosed : (w.page page).closed with
    | true => simp [World.isOpen, hclosed]
    | false => simp [World.isOpen, hclosed, List.getLast?_cons]

/-- The pages that a cell turns to when it is synchronised: the open ones that wait, and then the newest open page
of the context. -/
def switches (a : ActivePage) (w : World) : List String :=
  a.pending.filter w.isOpen ++ if a.attached then w.openPages.getLast?.toList else []

/-- A synchronised cell shows the last page that it turned to. -/
theorem sync_current_eq (a : ActivePage) (w : World) :
    (a.sync w).current = ((a.switches w).getLast?).getD a.current := by
  unfold switches
  simp only [sync, lastOpen_eq]
  cases a.attached with
  | false => simp
  | true => cases w.openPages.getLast? <;> simp

/-- A cell turns to open pages only. -/
theorem isOpen_of_mem_switches {a : ActivePage} {w : World} {page : String} (h : page ∈ a.switches w) :
    w.isOpen page = true := by
  rcases List.mem_append.1 h with hwaiting | hnewest
  · exact (List.mem_filter.1 hwaiting).2
  · split at hnewest
    · exact (World.mem_openPages.1 (List.mem_of_getLast? (Option.mem_toList.1 hnewest))).2
    · cases hnewest

end ActivePage

/-! ## §2 Histories -/

/-- Something that happens to a cell or its browser: a page is announced, the cell is synchronised, or something
happens in the browser, on the page `here`. -/
inductive Happening where
  | announced (page : String)
  | synced
  | effect (here : String) (e : Effect)
  deriving Repr

/-- The page that is announced. -/
def Happening.page? : Happening → Option String
  | .announced page => some page
  | _ => none

/-- The pages that are announced in a history, in order. -/
def announcements (hs : List Happening) : List String := hs.filterMap Happening.page?

/-- The cell of the active page and the browser. -/
structure Tabs where
  cell : ActivePage
  world : World
  deriving Repr

namespace Tabs

/-- What one happening changes. -/
def after (s : Tabs) : Happening → Tabs
  | .announced page => { s with cell := s.cell.notify page }
  | .synced => { s with cell := s.cell.sync s.world }
  | .effect here e => { s with world := (s.world.apply here e).1 }

/-- What a history leaves behind. -/
def play (s : Tabs) (hs : List Happening) : Tabs := hs.foldl after s

theorem play_append (s : Tabs) (hs more : List Happening) : s.play (hs ++ more) = (s.play hs).play more :=
  List.foldl_append

theorem after_attached (s : Tabs) (h : Happening) : (s.after h).cell.attached = s.cell.attached := by
  cases h <;> rfl

theorem play_attached (s : Tabs) (hs : List Happening) : (s.play hs).cell.attached = s.cell.attached := by
  induction hs generalizing s with
  | nil => rfl
  | cons h rest ih => exact (ih (s.after h)).trans (s.after_attached h)

/-- One happening other than synchronising lets an announced page wait and changes nothing else of the cell. -/
theorem after_quiet (s : Tabs) {h : Happening} (hh : h ≠ .synced) :
    (s.after h).cell = { s.cell with pending := s.cell.pending ++ h.page?.toList } := by
  cases h with
  | announced page => rfl
  | synced => exact absurd rfl hh
  | effect here e => simp [after, Happening.page?]

/-- A history without synchronising: what is announced waits in order, and nothing else of the cell changes. -/
theorem play_quiet (s : Tabs) {hs : List Happening} (hhs : .synced ∉ hs) :
    (s.play hs).cell = { s.cell with pending := s.cell.pending ++ announcements hs } := by
  induction hs generalizing s with
  | nil => simp [play, announcements]
  | cons h rest ih =>
    obtain ⟨hh, hrest⟩ := List.ne_and_not_mem_of_not_mem_cons hhs
    have hlater : (s.play (h :: rest)).cell = ((s.after h).play rest).cell := rfl
    rw [hlater, ih (s.after h) hrest, s.after_quiet hh.symm]
    cases hpage : h.page? <;> simp [announcements, hpage]

/-! ## §3 The page that is shown -/

/-- What synchronising makes of a cell beside its browser. -/
structure SyncedFrom (s t : Tabs) : Prop where
  /-- nothing waits any longer, and the browser is as before -/
  pending_eq : t.cell.pending = []
  world_eq : t.world = s.world
  /-- an open page in the context -/
  newest : s.cell.attached = true → ∀ page, s.world.openPages.getLast? = some page → t.cell.current = page
  /-- no context, or no open page in it -/
  announced : s.cell.attached = false ∨ s.world.openPages = [] →
    t.cell.current = ((s.cell.pending.filter s.world.isOpen).getLast?).getD s.cell.current
  /-- all pages that the cell turns to are open, and it shows the last of them -/
  switches_open : ∀ page ∈ s.cell.switches s.world, s.world.isOpen page = true
  current_eq : t.cell.current = ((s.cell.switches s.world).getLast?).getD s.cell.current
  current_open : t.cell.current ≠ s.cell.current → t.world.isOpen t.cell.current = true
  /-- once more changes nothing -/
  again : t.after .synced = t

theorem syncedFrom_after (s : Tabs) : SyncedFrom s (s.after .synced) where
  pending_eq := rfl
  world_eq := rfl
  newest hattached _ hnewest := ActivePage.sync_current hattached hnewest
  announced hnone := by
    have hswitches : s.cell.switches s.world = s.cell.pending.filter s.world.isOpen := by
      unfold ActivePage.switches
      rcases hnone with hdetached | hempty
      · simp [hdetached]
      · simp [hempty]
    rw [← hswitches]
    exact ActivePage.sync_current_eq _ _
  switches_open _ hpage := ActivePage.isOpen_of_mem_switches hpage
  current_eq := ActivePage.sync_current_eq _ _
  current_open hswitched := by
    have hcurrent := ActivePage.sync_current_eq s.cell s.world
    show s.world.isOpen (s.cell.sync s.world).current = true
    cases hlast : (s.cell.switches s.world).getLast? with
    | none =>
      rw [hlast] at hcurrent
      exact absurd hcurrent hswitched
    | some page =>
      rw [hlast] at hcurrent
      rw [hcurrent]
      exact ActivePage.isOpen_of_mem_switches (List.mem_of_getLast? hlast)
  again := congrArg (fun cell => ({ s with cell := cell } : Tabs)) (s.cell.sync_sync s.world)

/-- After any history of announcements, synchronising and effects, the cell goes on showing its page and announced
pages wait in order until it is synchronised; then it is as `SyncedFrom` says. If it listens to a context that
holds an open page, what it shows is known from the list of the context and from which of its pages are closed:
any other history of any other cell that leaves these the same is followed by the same page. -/
theorem play_synced (s : Tabs) (hs : List Happening) :
    (∀ quiet, .synced ∉ quiet → (s.play (hs ++ quiet)).cell
      = { (s.play hs).cell with pending := (s.play hs).cell.pending ++ announcements quiet }) ∧
    SyncedFrom (s.play hs) (s.play (hs ++ [.synced])) ∧
    (s.cell.attached = true → (s.play hs).world.openPages ≠ [] →
      ∀ (s' : Tabs) (hs' : List Happening), s'.cell.attached = true →
        (s'.play hs').world.context = (s.play hs).world.context →
        (∀ page ∈ (s.play hs).world.context,
          ((s'.play hs').world.page page).closed = ((s.play hs).world.page page).closed) →
        (s'.play (hs' ++ [.synced])).cell.current = (s.play (hs ++ [.synced])).cell.current) := by
  have hsynced : ∀ (s : Tabs) (hs : List Happening),
      SyncedFrom (s.play hs) (s.play (hs ++ [.synced])) := by
    intro s hs
    rw [play_append]
    exact syncedFrom_after _
  refine ⟨?_, hsynced s hs, ?_⟩
  · intro quiet hquiet
    rw [play_append]
    exact play_quiet _ hquiet
  · intro hattached hopen s' hs' hattached' hcontext hclosed
    obtain ⟨newest, hnewest⟩ := Option.isSome_iff_exists.1 (List.getLast?_isSome.2 hopen)
    have hnewest' : (s'.play hs').world.openPages.getLast? = some newest := by
      rw [World.openPages_congr hcontext hclosed, hnewest]
    rw [(hsynced s hs).newest ((s.play_attached hs).trans hattached) newest hnewest,
      (hsynced s' hs').newest ((s'.play_attached hs').trans hattached') newest hnewest']

/-- Two pages open, and the second one is announced twice and closed again: the first one is shown. -/
example :
    let world : World :=
      { pages := [{ name := "main" }, { name := "first" }, { name := "second" }], context := ["main"] }
    ((Tabs.mk (.on "main" true) world).play [
      .effect "main" (.openPage (some "first") false), .effect "main" (.openPage (some "second") true),
      .announced "second", .announced "second", .effect "main" (.close (some "second")), .synced]).cell
        = ⟨"first", [], true⟩ := by
  decide +kernel

end Tabs
end BrowserScript.Browser
