/-
# What becomes of shared dicts

Whatever was done to the tables of a store before, a dict that is asked for by a name is the one that has the name or a
new empty one, a name that is forgotten leaves its dict to those who still have the reference, and copies change their
target only (`dicts_after`).  The plugin that owns a table asks its host for nothing (`run_eq`), and copies in just this
way what the dict of its chain asks for.
-/

import Calibration.Builtin.DictHash
import Calibration.Proofs.Chain.Code
import Calibration.Proofs.Store.Sharing

namespace Calibration
namespace DictHash

open Store

/-- Copies what the dict at a reference asks for into a table. -/
def copy (s : Store) (source : DictRef) (t : TableRef) : Store :=
  match (s.dict source).getString? targetKey with
  | none => s
  | some target => (s.copyInto source t target (((s.dict source).getStringArray? keysKey).getD [])).2

/-- **The plugin asks for nothing**: it fails without the dict of its chain, and else copies what that dict asks for.
-/
theorem run_eq (t : TableRef) (ctx : RunContext) (memory : Dict) (s : Store) :
    (run t ctx).run.run ⟨memory, s⟩ =
      .done (match s.find? ctx.table ctx.dictName with
        | none => (.error (.failed (.config ("no dict '" ++ ctx.dictName ++ "'"))), ⟨memory, s⟩)
        | some source => (.ok (), ⟨memory, copy s source t⟩)) := by
  have hdict := ChainCode.run_dict ctx ⟨memory, s⟩
  cases hfind : s.find? ctx.table ctx.dictName with
  | none =>
    simp only [hfind] at hdict
    exact ChainCode.run_bind_of_error hdict _
  | some source =>
    simp only [hfind] at hdict
    refine (ChainCode.run_bind_of_ok hdict _).trans ?_
    refine (ChainCode.run_bind_of_ok (a := s.dict source) rfl _).trans ?_
    cases htarget : (s.dict source).getString? targetKey with
    | none => simp only [copy, htarget]; rfl
    | some target => simp only [copy, htarget]; rfl

/-- What a call of the plugin for a table makes of the store, and how it ends. -/
structure Ran (t : TableRef) (ctx : RunContext) (s : Store) (result : Except PluginError Unit) (s' : Store) : Prop where
  missing : s.find? ctx.table ctx.dictName = none →
    result = .error (.config ("no dict '" ++ ctx.dictName ++ "'")) ∧ s' = s
  idle : ∀ source, s.find? ctx.table ctx.dictName = some source → (s.dict source).getString? targetKey = none →
    result = .ok () ∧ s' = s
  copied : ∀ source target, s.find? ctx.table ctx.dictName = some source →
    (s.dict source).getString? targetKey = some target → result = .ok () ∧
      s' = (s.copyInto source t target (((s.dict source).getStringArray? keysKey).getD [])).2

/-- **The plugin copies what the dict of its chain asks for**, and does nothing else, in cancelled runs too.  It never
asks for a cancel itself. -/
theorem ran_call {t : TableRef} (ctx : RunContext) (members : List Nat) {run : Run} {i : Nat}
    (hplugin : (run.roster.handle i).plugin = plugin t) :
    Ran t ctx run.store (run.call ctx members .run i).1.result (run.call ctx members .run i).2.store ∧
      (run.call ctx members .run i).2.isCancelled = run.isCancelled := by
  have hcode : Run.program ctx .run run i = (DictHash.run t ctx).run.run ⟨(run.roster.handle i).memory, run.store⟩ := by
    rw [Run.program, hplugin]
    rfl
  have hprogram := hcode.trans (run_eq ..)
  cases hfind : run.store.find? ctx.table ctx.dictName with
  | none =>
    simp only [hfind] at hprogram
    obtain ⟨hresult, hstore, hcancelled⟩ := Run.call_of_done members hprogram
    refine ⟨⟨fun _ => ⟨hresult, hstore⟩, ?_, ?_⟩, hcancelled⟩
    · intro source hsource
      cases hfind.symm.trans hsource
    · intro source target hsource
      cases hfind.symm.trans hsource
  | some source =>
    simp only [hfind] at hprogram
    obtain ⟨hresult, hstore, hcancelled⟩ := Run.call_of_done members hprogram
    refine ⟨⟨?_, ?_, ?_⟩, hcancelled⟩
    · intro hnone
      cases hfind.symm.trans hnone
    · intro q hq htarget
      obtain rfl : source = q := Option.some.inj (hfind.symm.trans hq)
      exact ⟨hresult, hstore.trans (by rw [copy, htarget])⟩
    · intro q target hq htarget
      obtain rfl : source = q := Option.some.inj (hfind.symm.trans hq)
      exact ⟨hresult, hstore.trans (by rw [copy, htarget])⟩

/-- **After any uses of a store, names lead to dicts as they should.**  In each table no name stands twice, and each
leads to a dict that is there.  Who asks for a name is provided with the dict that has it, or with a new empty one that
reads items in the scope of the table; a name that is forgotten is missing from its table only, and the dict that had it
comes back under no name and stays as it is, whatever becomes of the names, until somebody writes to its reference.
Copies change the target only, and so does the plugin that owns the table. -/
theorem dicts_after (scopes : List TypeScope) (loose : List Dict) (files : Files) (uses : List (Use scopes.length))
    (t : Fin scopes.length) (name : String) :
    let s := (opened scopes loose files).after uses
    (s.names t).Nodup ∧ (s.table t).scope = scopes.get t ∧ (∀ r, s.find? t name = some r → r < s.dicts.length) ∧
      Provides t name s (s.newDict t name).1 (s.newDict t name).2 ∧
      Forgets t name s (s.clearDict t name).1 (s.clearDict t name).2 ∧
      (∀ r, s.find? t name = some r → ∀ later : List (Use scopes.length),
        let s' := (s.clearDict t name).2.after later
        (∀ u other, s'.find? u other ≠ some r ∧ (s'.newDict u other).1 ≠ r) ∧
          ((∀ f, Use.write r f ∉ later) → s'.dict r = s.dict r)) ∧
      (∀ source < s.dicts.length, ∀ keys,
        Copies source t name keys s (s.copyInto source t name keys).1 (s.newDict t name).1
          (s.copyInto source t name keys).2) ∧
      ∀ ctx members (run : Run) i, run.store = s → (run.roster.handle i).plugin = plugin t →
        Ran t ctx s (run.call ctx members .run i).1.result (run.call ctx members .run i).2.store := by
  intro s
  have hopened := named_opened scopes loose files
  have hlength := length_tables_opened scopes loose files
  obtain ⟨hs, ht⟩ : s.Named ∧ s.tables.length = scopes.length := hopened.after hlength uses
  have hforgets := forgets_clearDict hs (lt_length_tables ht t) name
  have hscope : (s.table t).scope = scopes.get t :=
    (scope_after hopened hlength uses t).trans (scope_opened loose files t)
  refine ⟨hs.nodup t, hscope, hs.lt t name, provides_newDict (lt_length_tables ht t) name, hforgets, ?_, ?_, ?_⟩
  · intro r hr later
    obtain ⟨hlater, hdict⟩ :=
      (forgotten_of_forgets hs hforgets hr).after (hforgets.named hs) (hforgets.length.trans ht) later
    refine ⟨fun u other => ⟨hlater.find?_ne u other, hlater.newDict_ne u other⟩, fun hnot => (hdict hnot).trans ?_⟩
    rw [dict, dict, hforgets.dicts]
  · intro source hsource keys
    exact copies_copyInto hs (lt_length_tables ht t) hsource name keys
  · intro ctx members run i hstore hplugin
    exact hstore ▸ (ran_call ctx members hplugin).1

/-- A store with a table of the host and another one, where a dict of the first asks for copies into the second. -/
def shared : Store :=
  (opened [.host, .builtin] [] {}).after (n := 2)
    [.newDict 0 "run", .write 0 fun d =>
      { d with entries := [(targetKey, .string "out"), (keysKey, .stringArray [targetKey, "gain", targetKey])] }]

/-- The plugin for the second table in a chain on that dict. -/
def copying : Run :=
  { roster := { entries := [{ handle := .ofPlugin (plugin 1), origin := .static }] }, store := shared }

/-- What the plugin knows of the chain. -/
def onShared : RunContext :=
  { chain := "copy", dictName := "run", table := 0, members := [], registry? := none, types := [], now := .epoch }

/-- The dict outlives its name, and a key that is asked for twice is copied once. -/
theorem shared_dicts :
    shared.find? 0 "run" = some 0 ∧
      ((shared.clearDict 0 "run").2.after (n := 2) [.newDict 0 "run"]).dict 0 = shared.dict 0 ∧
      0 < shared.dicts.length ∧
      (shared.copyInto 0 1 "out" [targetKey, "gain", targetKey]).1 = 2 ∧
      (copying.roster.handle 0).plugin = plugin 1 ∧
      (copying.call onShared [0] .run 0).2.store = (shared.copyInto 0 1 "out" [targetKey, "gain", targetKey]).2 := by
  have htables := dicts_after [.host, .builtin] [] {} [.newDict ⟨0, by decide⟩ "run", .write 0 fun d =>
    { d with entries := [(targetKey, .string "out"), (keysKey, .stringArray [targetKey, "gain", targetKey])] }]
  obtain ⟨-, -, -, -, -, hforgotten, -⟩ := htables ⟨0, by decide⟩ "run"
  obtain ⟨-, -, -, -, -, -, hcopies, hran⟩ := htables ⟨1, by decide⟩ "out"
  have hfind : shared.find? 0 "run" = some 0 := rfl
  have hlength : 0 < shared.dicts.length := by decide
  obtain ⟨-, hdict⟩ := hforgotten 0 hfind [.newDict ⟨0, by decide⟩ "run"]
  refine ⟨hfind, hdict (by simp), hlength, ?_, rfl, ?_⟩
  · exact ((hcopies 0 hlength [targetKey, "gain", targetKey]).counted (by decide)).trans (by decide)
  · exact ((hran onShared [0] copying 0 rfl rfl).copied 0 "out" hfind rfl).2

end DictHash
end Calibration
