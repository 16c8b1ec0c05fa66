/-
# All chains of a configuration

Building a chain changes nothing that another plan depends on: the dict of a plan is asked for, and plugins stay as they
are.  So each plan of a configuration comes to what it would come to alone, and together they come to all their chains
or to what the first that fails reports (`ChainPlan.buildsAll`).  The plugins of a chain that was built stay runnable
whatever is done in the session afterwards (`plans_build`).
-/

import Calibration.Proofs.Host.Session

namespace Calibration

/-- The host once the dicts of some plans have been asked for. -/
def Host.withDicts (h : Host) (plans : List ChainPlan) : Host :=
  { h with store := plans.foldl (fun s p => (s.newDict mainTable p.dict).2) h.store }

namespace ChainPlan

variable {plans : List ChainPlan} {h : Host}

/-- What becomes of some plans: all their chains in order, or what the first that fails reports. -/
structure BuildsAll (plans : List ChainPlan) (h : Host) (result : Except RegistryError (List Chain)) (h' : Host) :
    Prop where
  built : ∀ chains, result = .ok chains →
    List.Forall₂ (fun p c => (p.build h).1 = .ok c) plans chains ∧ h' = h.withDicts plans
  failed : ∀ e, result = .error e →
    ∃ before p after, plans = before ++ p :: after ∧ (∀ q ∈ before, ∃ c, (q.build h).1 = .ok c) ∧
      (p.build h).1 = .error e ∧ h' = h.withDicts (before ++ [p])

/-- **Plans are built one after the other**, each as if it were alone, up to the first that fails.  The induction
carries the dicts that the plans before have provided, since nothing else of the host has changed. -/
theorem buildsAll (plans : List ChainPlan) (h : Host) :
    BuildsAll plans h (buildAll plans h).1 (buildAll plans h).2 := by
  induction plans generalizing h with
  | nil =>
    refine ⟨fun chains hchains => ?_, nofun⟩
    obtain rfl : [] = chains := Except.ok.inj hchains
    exact ⟨.nil, rfl⟩
  | cons p plans ih =>
    have hhost : (p.build h).2 = h.withDicts [p] := rfl
    have hsame : ∀ q : ChainPlan, (q.build (h.withDicts [p])).1 = (q.build h).1 := fun q => q.build_withStore h _
    have hrest := ih (h.withDicts [p])
    rw [buildAll]
    rcases hp : p.build h with ⟨result, h'⟩
    rw [hp] at hhost
    obtain rfl : h' = h.withDicts [p] := hhost
    have hresult : (p.build h).1 = result := congrArg Prod.fst hp
    cases result with
    | error e =>
      refine ⟨nofun, fun e' he => ?_⟩
      obtain rfl : e = e' := Except.error.inj he
      exact ⟨[], p, plans, rfl, nofun, hresult, rfl⟩
    | ok c =>
      rcases hall : buildAll plans (h.withDicts [p]) with ⟨rest, h'⟩
      rw [hall] at hrest
      simp only [hall]
      cases rest with
      | ok chains =>
        refine ⟨fun chains' hchains => ?_, nofun⟩
        obtain rfl : c :: chains = chains' := Except.ok.inj hchains
        obtain ⟨hrow, hhost⟩ := hrest.built chains rfl
        exact ⟨.cons hresult (hrow.imp fun q _ hq => (hsame q).symm.trans hq), hhost⟩
      | error e =>
        refine ⟨nofun, fun e' he => ?_⟩
        obtain rfl : e = e' := Except.error.inj he
        obtain ⟨before, q, after, rfl, hbefore, hq, hhost⟩ := hrest.failed e rfl
        refine ⟨p :: before, q, after, rfl, ?_, (hsame q).symm.trans hq, hhost⟩
        refine List.forall_mem_cons.2 ⟨⟨c, hresult⟩, fun other hother => ?_⟩
        rw [← hsame other]
        exact hbefore other hother

end ChainPlan

namespace Config

/-- **How chains are put together.**  In every state of a registry a plan comes to a chain exactly if each of its names
is carried by a runnable plugin.  The chain has the settings of the plan and, in the order of the names, the first
runnable plugin of each; these stay runnable whatever is done later.  Otherwise the first name that no runnable plugin
has is reported.  The dict of the plan is provided in any case, and the plugins stay as they are.  All plans of a
configuration come to their chains in order, or to what the first that fails reports. -/
theorem plans_build (h : Host) :
    (∀ p : ChainPlan, p.Builds h (p.build h).1 (p.build h).2 ∧
      ∀ c, (p.build h).1 = .ok c → ∀ (s : Session) (later : List Session.Operation), s.host = (p.build h).2 →
        ∀ k ∈ c.members, ((later.foldl Session.Operation.perform s).host.roster.handle k).state = .runnable) ∧
      ∀ config : Config, ChainPlan.BuildsAll config.chains h (config.buildChains h).1 (config.buildChains h).2 := by
  refine ⟨fun p => ⟨p.builds h, fun c hc s later hs k hk => ?_⟩, fun config => ChainPlan.buildsAll config.chains h⟩
  refine Session.runnable_foldl_perform ?_ later
  rw [hs]
  exact ((p.builds h).assembled c hc).runnable k hk

/-- A lamp without oil, a screen, another lamp, and a stove without wood. -/
def stocking : List Session.Operation :=
  [.registry (.loadStatic { name := "Lamp", checkDeps := fun _ => .requireAll (.ok ()) [.require "Oil"] } none),
    .registry (.loadStatic { name := "Screen" } none), .registry (.loadStatic { name := "Lamp" } none),
    .registry (.loadStatic { name := "Stove", checkDeps := fun _ => .requireAll (.ok ()) [.require "Wood"] } none),
    .registry .bringUp]

/-- The registry with all four. -/
def shop : Host := (stocking.foldl Session.Operation.perform (.opened false {})).host

/-- A plan that names the lamp twice. -/
def display : ChainPlan := { name := "display", plugins := ["Lamp", "Screen", "Lamp"] }

/-- A plan that names what is there, what is rejected, and what nobody has. -/
def heating : ChainPlan := { name := "heating", plugins := ["Screen", "Stove", "Wood"] }

/-- What the heating fails with. -/
def coldStove : RegistryError := .chain (.notRunnable "Stove" "Rejected in CheckDeps: Missing dependency: Wood")

/-- The lamp on display is the one that is runnable, and stays so; the heating fails at the stove. -/
theorem display_and_heating :
    (∀ name ∈ display.plugins, shop.roster.Carries name) ∧
      (∃ c, (display.build shop).1 = .ok c ∧ c.members = [2, 1, 2] ∧ ∀ k ∈ c.members,
        ((stocking.foldl Session.Operation.perform { host := (display.build shop).2 }).host.roster.handle k).state =
          .runnable) ∧
      shop.roster.Misses heating.plugins coldStove ∧
      Host.mainTable < shop.store.tables.length ∧ (heating.build shop).2.store.find? Host.mainTable "default" = some 0 ∧
      ∃ before p after, [display, heating] = before ++ p :: after ∧ (p.build shop).1 = .error coldStove ∧
        (Config.buildChains { chains := [display, heating] } shop).2 = shop.withDicts (before ++ [p]) := by
  obtain ⟨hbuilds, hall⟩ := plans_build shop
  obtain ⟨hdisplay, hlasting⟩ := hbuilds display
  have hheating := (hbuilds heating).1
  have hcarries : ∀ name ∈ display.plugins, shop.roster.Carries name := by
    have hrunnable : ∀ name ∈ display.plugins, ∃ k < shop.roster.size,
        (shop.roster.handle k).name = name ∧ (shop.roster.handle k).state = .runnable := by decide +kernel
    exact hrunnable
  obtain ⟨c, hc⟩ := hdisplay.isOk_iff.2 hcarries
  have hmembers : (display.build shop).1.map (·.members) = .ok [2, 1, 2] := by decide +kernel
  rw [hc] at hmembers
  have hfails : (heating.build shop).1 = .error coldStove := by decide +kernel
  have htable : Host.mainTable < shop.store.tables.length := by decide +kernel
  refine ⟨hcarries, ⟨c, hc, Except.ok.inj hmembers, hlasting c hc _ stocking rfl⟩, hheating.missed _ hfails, htable,
    ?_, ?_⟩
  · have hfound := (hheating.dict htable).found
    rwa [show (shop.store.newDict Host.mainTable heating.dict).1 = 0 by decide +kernel] at hfound
  · have hstops : (Config.buildChains { chains := [display, heating] } shop).1 = .error coldStove := by decide +kernel
    obtain ⟨before, p, after, hplans, -, hp, hhost⟩ := (hall { chains := [display, heating] }).failed _ hstops
    exact ⟨before, p, after, hplans, hp, hhost⟩

end Config
end Calibration
