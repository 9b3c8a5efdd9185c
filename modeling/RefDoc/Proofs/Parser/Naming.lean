import RefDoc.Plugin.Builtin
import RefDoc.Proofs.Desk
import RefDoc.Proofs.Doclet.Naming

/-!
# Names of parsed doclets

A plugin `KeepsNaming` if its handler for new doclets leaves their naming alone and the parser that
its hook gives back still has that handler; all built-in plugins do. A parser with such plugins makes
coherent doclets only (`parseTexts_coherent`).
-/

namespace RefDoc

variable {σ : Type}

def Handler.KeepsNaming : Handler σ → Prop
  | .newDoclet run => ∀ d, (run d).Gives fun e => e.naming = d.naming
  | _ => True

/-! ### Plugins -/

namespace Plugin

structure KeepsNaming (p : Plugin σ) : Prop where
  handlers : p.handlers.Gives fun hs => ∀ h ∈ hs, h.KeepsNaming
  hook : ∀ parser, (p.hook parser).Gives fun q =>
    q.handlers.newDoclet = parser.handlers.newDoclet

theorem onDoclets_keepsNaming {change : Doclet → Doclet}
    (keeps : ∀ d, (change d).naming = d.naming) : (onDoclets change : Plugin σ).KeepsNaming where
  handlers := Act.gives_pure fun h hh => by
    rw [List.mem_singleton.1 hh]
    exact fun d => Act.gives_pure (keeps d)
  hook _ := Act.gives_pure rfl

theorem naming_hideUnderscored (d : Doclet) : d.hideUnderscored.naming = d.naming := by
  unfold Doclet.hideUnderscored
  split <;> rfl

theorem naming_relocated (d : Doclet) : d.relocated.naming = d.naming := by
  unfold Doclet.relocated
  split <;> rfl

theorem eventDumper_keepsNaming : (eventDumper : Plugin σ).KeepsNaming where
  handlers := Act.gives_pure fun h hh => by
    simp only [List.mem_cons, List.not_mem_nil, or_false] at hh
    rcases hh with rfl | rfl | rfl | rfl | rfl | rfl | rfl
    case inr.inr.inr.inl => exact fun d => (Act.gives_true _).bind fun _ _ => Act.gives_pure rfl
    all_goals trivial
  hook _ := Act.gives_pure rfl

theorem builtin_keepsNaming {name : String} {p : Plugin σ} (h : builtin.get? name = some p) :
    p.KeepsNaming := by
  have listed := Table.mem_of_get?_ofList h
  simp only [List.mem_cons, Prod.mk.injEq, List.not_mem_nil, or_false] at listed
  rcases listed with ⟨-, rfl⟩ | ⟨-, rfl⟩ | ⟨-, rfl⟩ | ⟨-, rfl⟩
  · exact onDoclets_keepsNaming naming_hideUnderscored
  · exact onDoclets_keepsNaming fun _ => rfl
  · exact onDoclets_keepsNaming naming_relocated
  · exact eventDumper_keepsNaming

end Plugin

/-! ### Parsers -/

namespace Parser

def KeepsNaming (p : Parser σ) : Prop :=
  ∀ run, p.handlers.newDoclet = some run → ∀ d, (run d).Gives fun e => e.naming = d.naming

theorem on_keepsNaming {p : Parser σ} (hp : p.KeepsNaming) {h : Handler σ} (hh : h.KeepsNaming) :
    (p.on h).Gives KeepsNaming := by
  have set : { p with handlers := p.handlers.set h }.KeepsNaming := by
    cases h with
    | newDoclet run =>
      intro other eq
      cases eq
      exact hh
    | _ => exact hp
  intro desk
  unfold on
  split <;> exact set

theorem installAll_keepsNaming {p : Parser σ} (hp : p.KeepsNaming) {ls : List (LoadedPlugin σ)}
    (hls : ∀ l ∈ ls, l.plugin.KeepsNaming) : (p.installAll ls).Gives KeepsNaming := by
  have onAll : ∀ (hs : List (Handler σ)) {p : Parser σ}, p.KeepsNaming →
      (∀ h ∈ hs, h.KeepsNaming) → (p.onAll hs).Gives KeepsNaming := by
    intro hs
    induction hs with
    | nil => exact fun hp _ => Act.gives_pure hp
    | cons h rest ih =>
      intro p hp hhs
      unfold Parser.onAll
      rw [List.foldlM_cons]
      exact (on_keepsNaming hp (hhs h List.mem_cons_self)).bind fun _ hq =>
        ih hq fun h' hh => hhs h' (List.mem_cons_of_mem _ hh)
  unfold installAll
  induction ls generalizing p with
  | nil => exact Act.gives_pure hp
  | cons l rest ih =>
    rw [List.foldlM_cons]
    have installed : (p.install l).Gives KeepsNaming := by
      have keeps := hls l List.mem_cons_self
      refine keeps.handlers.bind fun hs hhs => (onAll hs hp hhs).bind fun q hq => ?_
      refine (keeps.hook q).bind fun _ same => (Act.gives_true _).bind fun _ _ => ?_
      exact Act.gives_pure fun run h => hq run (same ▸ h)
    exact installed.bind fun _ hq => ih hq fun l' hl => hls l' (List.mem_cons_of_mem _ hl)

theorem fireNewDoclet_naming {p : Parser σ} (hp : p.KeepsNaming) (d : Doclet) :
    (p.fireNewDoclet d).Gives fun e => e.naming = d.naming := by
  unfold fireNewDoclet
  cases handler : p.handlers.newDoclet with
  | none => exact Act.gives_pure rfl
  | some run => exact hp run handler d

theorem coherent_docletAt? {comment : String} {file : Path} {b : Comment.Block} {d : Doclet}
    (h : docletAt? comment file b = some d) : d.naming.Coherent := by
  obtain ⟨made, hd, rfl⟩ := Option.map_eq_some_iff.1 h
  show made.naming.Coherent
  exact Comment.coherent_docletOf? hd

theorem parseBlock_coherent {p : Parser σ} (hp : p.KeepsNaming) (file : Path) {c : Collection}
    (hc : c.Coherent) (b : Comment.Block) : (p.parseBlock file c b).Gives Collection.Coherent := by
  unfold parseBlock
  refine (Act.gives_true _).bind fun comment _ => ?_
  split
  · exact Act.gives_pure hc
  · split
    · exact Act.gives_pure hc
    · next d made =>
      refine (fireNewDoclet_naming hp d).bind fun e named => Act.gives_pure (hc.push ?_)
      rw [named]
      exact coherent_docletAt? made

theorem parseSource_coherent {p : Parser σ} (hp : p.KeepsNaming) (file : Path) (source : String)
    {c : Collection} (hc : c.Coherent) : (p.parseSource file source c).Gives Collection.Coherent :=
  (Act.gives_true _).bind fun _ _ =>
    (Act.gives_foldlM (fun _ b h => parseBlock_coherent hp file h b) _ hc).bind fun _ h =>
      (Act.gives_true _).bind fun _ _ => Act.gives_pure h

/-- Adds the doclets of several texts, each with the file it is from. -/
def parseSources (p : Parser σ) (sources : List (Path × String)) (doclets : Collection) :
    Act σ Collection :=
  sources.foldlM (fun doclets s => p.parseSource s.1 s.2 doclets) doclets

theorem parseSources_coherent {p : Parser σ} (hp : p.KeepsNaming) (sources : List (Path × String))
    {c : Collection} (hc : c.Coherent) : (p.parseSources sources c).Gives Collection.Coherent :=
  Act.gives_foldlM (fun _ s h => parseSource_coherent hp s.1 s.2 h) sources hc

/-- Makes a parser with plugins, as a run does, and parses texts with it. -/
def parseTexts (config : Option Json) (plugins : List (LoadedPlugin σ))
    (sources : List (Path × String)) : Act σ Collection := do
  let parser ← ({ config } : Parser σ).installAll plugins
  { parser with standard := true }.parseSources sources .empty

/-- Whatever the texts, plugins that keep the naming leave every doclet coherent. -/
theorem parseTexts_coherent (config : Option Json) {plugins : List (LoadedPlugin σ)}
    (keep : ∀ l ∈ plugins, l.plugin.KeepsNaming) (sources : List (Path × String)) :
    (parseTexts config plugins sources).Gives Collection.Coherent := by
  have bare : ({ config } : Parser σ).KeepsNaming := fun _ h => nomatch h
  refine (installAll_keepsNaming bare keep).bind fun parser hp => ?_
  exact parseSources_coherent (p := { parser with standard := true }) hp sources
    Collection.coherent_empty

end Parser

end RefDoc
