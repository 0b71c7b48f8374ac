import SchemaLedger.Proofs.Directory.Workshop

/-! # Where activities take place

A file tree, a store, and a record of what has been asked of them. Directories list their names in
any order, calls that are to change the tree may fail, and the store answers as it likes. -/

namespace SchemaLedger

open Files (Tree)

/-- A request with its answer. -/
structure Exchange where
  call : Host.Call
  answer : call.Answer

/-- A tree and a store, with a record of the calls to the store and of those calls on files that are
to change something. -/
structure Site (σ : Type) where
  tree : Tree
  store : σ
  record : List Exchange

/-- What an activity without effects on the tree has added to the record of a site. -/
structure Site.Grows {σ : Type} (site after : Site σ) (new : List Exchange) : Prop where
  tree : after.tree = site.tree
  record : after.record = site.record ++ new

namespace Site.Grows

variable {σ : Type} {site mid after : Site σ} {first second : List Exchange}

theorem refl (site : Site σ) : site.Grows site [] := ⟨rfl, (List.append_nil _).symm⟩

theorem trans (h : site.Grows mid first) (h' : mid.Grows after second) :
    site.Grows after (first ++ second) where
  tree := h'.tree.trans h.tree
  record := by rw [h'.record, h.record, List.append_assoc]

end Site.Grows

/-- An order in which directories list their names. -/
structure Listing where
  order : List Name → List Name
  perm : ∀ names, (order names).Perm names

/-- What is seen of a tree where directories list their names in some order. -/
def Listing.sight (listing : Listing) (tree : Tree) : Files.Sight
  | .list dir => (tree.list dir).map listing.order
  | call => (tree.answer call).1

theorem Listing.exists_listed {listing : Listing} {tree : Tree} {dir : Path} {entries : List Name}
    (h : listing.sight tree (.list dir) = .ok entries) :
    ∃ names, tree.list dir = .ok names ∧ entries = listing.order names := by
  have h : (tree.list dir).map listing.order = .ok entries := h
  cases hnames : tree.list dir with
  | error error =>
      rw [hnames] at h
      cases h
  | ok names =>
      rw [hnames] at h
      exact ⟨names, rfl, (Except.ok.inj h).symm⟩

/-- How calls are answered at some time. What a call on files does may depend on all that has been
asked before. -/
structure Setting (σ : Type) where
  now : Int
  store : Handler Store.calls σ
  files : List Exchange → Handler Files.calls Tree
  conforms : ∀ record call tree, (frailShop now).answers tree (.files call)
    (files record call tree).1 (files record call tree).2

namespace Setting

variable {σ α : Type} (setting : Setting σ) (listing : Listing)

def told (call : Store.Call) (site : Site σ) : Site σ where
  tree := site.tree
  store := (setting.store call site.store).2
  record := site.record ++ [⟨.store call, (setting.store call site.store).1⟩]

def changed (call : Files.Call) (site : Site σ) : Site σ where
  tree := (setting.files site.record call site.tree).2
  store := site.store
  record := site.record ++ [⟨.files call, (setting.files site.record call site.tree).1⟩]

def handler : Handler host (Site σ)
  | .files (.list dir), site => (listing.sight site.tree (.list dir), site)
  | .files (.read path), site => (listing.sight site.tree (.read path), site)
  | .files (.isDir path), site => (listing.sight site.tree (.isDir path), site)
  | .files call, site =>
    ((setting.files site.record call site.tree).1, setting.changed call site)
  | .store call, site => ((setting.store call site.store).1, setting.told call site)
  | .now, site => (setting.now, site)
  | .note _, site => ((), site)
  | .print _, site => ((), site)
  | .connect _, site => (.ok (), site)
  | .disconnect, site => ((), site)

def surroundings : Surroundings host (Site σ) where
  allows _ _ := True
  answers site request answer after := setting.handler listing request site = (answer, after)

variable {setting listing} {site : Site σ}

@[simp] theorem told_tree (call : Store.Call) : (setting.told call site).tree = site.tree := rfl

theorem grows_told (call : Store.Call) : site.Grows (setting.told call site)
    [⟨.store call, (setting.store call site.store).1⟩] := ⟨rfl, rfl⟩

@[simp] theorem handler_store (call : Store.Call) : setting.handler listing (.store call) site =
    ((setting.store call site.store).1, setting.told call site) := rfl

/-- A scan sees the tree of its site and leaves all as it is. -/
theorem run_scan (dir : Path) :
    Program.run (setting.handler listing) (Directory.scan dir).run site =
      (Directory.seen (listing.sight site.tree) dir, site) := by
  obtain ⟨hresult, hsite⟩ := (Directory.scan_looks dir).run_agree
    (setting.handler listing) (listing.sight site.tree).handler (fun s _ => s = site)
    (by
      rintro request looks _ _ rfl
      match request, looks with
      | .files (.list _), _ => exact ⟨rfl, rfl⟩
      | .files (.read _), _ => exact ⟨rfl, rfl⟩
      | .note _, _ => exact ⟨rfl, rfl⟩) (t := ()) rfl
  exact Prod.ext hresult hsite

/-- What lists no directory runs alike in whatever order directories list their names. -/
theorem run_unlisted {p : Program host α} (unlisted : p.Asks Host.Call.Unlisted)
    (listing' : Listing) :
    Program.run (setting.handler listing) p site = Program.run (setting.handler listing') p site := by
  obtain ⟨hresult, hsite⟩ := unlisted.run_agree (setting.handler listing)
    (setting.handler listing') Eq
    (by
      rintro request beside s _ rfl
      have hsame : setting.handler listing request s = setting.handler listing' request s := by
        match request, beside with
        | .files (.list dir), hlist => exact absurd rfl (hlist dir)
        | .files (.read _), _ | .files (.isDir _), _ | .files (.makeDir _), _
        | .files (.create _), _ | .files (.fill ..), _ | .files (.rename ..), _
        | .store _, _ | .now, _ | .note _, _ | .print _, _ | .connect _, _ | .disconnect, _ => rfl
      exact ⟨congrArg Prod.fst hsame, congrArg Prod.snd hsame⟩) rfl
  exact Prod.ext hresult hsite

/-- What lists no directory makes of the tree what it may make of it wherever calls may fail. -/
theorem runs_frailShop {p : Program host α} (unlisted : p.Asks Host.Call.Unlisted) :
    Program.Runs (frailShop setting.now) p site.tree
      (Program.run (setting.handler listing) p site).1
      (Program.run (setting.handler listing) p site).2.tree := by
  induction p generalizing site with
  | done value => exact .done value site.tree
  | ask request next ih =>
      refine .ask ?_ (ih _ (unlisted.2 _))
      match request, unlisted.1 with
      | .files (.list dir), hlist => exact absurd rfl (hlist dir)
      | .files (.read path), _ => exact .inl (.inl rfl)
      | .files (.isDir path), _ => exact .inl (.inl rfl)
      | .files (.makeDir path), _ => exact setting.conforms _ _ _
      | .files (.create path), _ => exact setting.conforms _ _ _
      | .files (.fill path content), _ => exact setting.conforms _ _ _
      | .files (.rename source target), _ => exact setting.conforms _ _ _
      | .store call, _ => exact rfl
      | .now, _ => exact ⟨rfl, rfl⟩
      | .note event, _ => exact rfl
      | .print line, _ => exact rfl
      | .connect url, _ => exact rfl
      | .disconnect, _ => exact rfl

theorem store_of_asks {p : Program host α}
    (asks : p.Asks fun (request : Host.Call) => ∀ call, request ≠ .store call) :
    (Program.run (setting.handler listing) p site).2.store = site.store := by
  induction p generalizing site with
  | done value => rfl
  | ask request next ih =>
      rw [Program.run_ask, ih _ (asks.2 _)]
      match request, asks.1 with
      | .store call, hstore => exact absurd rfl (hstore call)
      | .files (.list _), _ | .files (.read _), _ | .files (.isDir _), _ | .files (.makeDir _), _
      | .files (.create _), _ | .files (.fill ..), _ | .files (.rename ..), _
      | .now, _ | .note _, _ | .print _, _ | .connect _, _ | .disconnect, _ => rfl

/-! ## Programs in a setting -/

variable {ε : Type}

theorem run_of_meets {α : Type} {p : Program host α} {ends : α → Site σ → Prop}
    (h : Program.Meets (setting.surroundings listing) p ends site) :
    ends (Program.run (setting.handler listing) p site).1
      (Program.run (setting.handler listing) p site).2 :=
  h.run fun _ _ => rfl

theorem meets_asking {call : Store.Call} {ends : Except ε call.Answer → Site σ → Prop}
    (h : ∀ answer after, setting.store call site.store = (answer, after.store) →
      site.Grows after [⟨.store call, answer⟩] → ends (.ok answer) after) :
    Program.Meets (setting.surroundings listing) (Task.store call : Task ε _).run ends site := by
  rw [Task.meets_store]
  refine ⟨trivial, ?_⟩
  rintro _ _ ⟨⟩
  exact h _ _ rfl ⟨rfl, rfl⟩

theorem meets_telling {call : Store.Call} {ends : Except ε call.Answer → Site σ → Prop}
    (h : ∀ answer after, site.Grows after [⟨.store call, answer⟩] → ends (.ok answer) after) :
    Program.Meets (setting.surroundings listing) (Task.store call : Task ε _).run ends site :=
  meets_asking fun answer after _ => h answer after

theorem meets_noting {event : Event} {ends : Except ε Unit → Site σ → Prop}
    (h : ends (.ok ()) site) :
    Program.Meets (setting.surroundings listing) (Task.note event : Task ε _).run ends site := by
  rw [Task.meets_note]
  refine ⟨trivial, ?_⟩
  rintro _ _ ⟨⟩
  exact h

end Setting

end SchemaLedger
