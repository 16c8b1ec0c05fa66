/-
# Chains from their plans

A chain is put together from the runnable plugins that its plan names. It fails at the first name that has none;
the dict of the chain is made in any case.
-/

import Calibration.Config.Basic
import Calibration.Host.Basic

namespace Calibration

/-- The chain with the runnable plugins of some names at its end. -/
def Chain.appendNamed (h : Host) : Chain → List String → Except RegistryError Chain
  | c, [] => .ok c
  | c, name :: names =>
    match h.runnableByName name with
    | .error e => .error e
    | .ok i =>
      match c.append h.roster i with
      | .error e => .error (.chain e)
      | .ok c => appendNamed h c names

/-- Puts the chain of a plan together. -/
def ChainPlan.build (p : ChainPlan) (h : Host) : Except RegistryError Chain × Host :=
  let (c, h) := h.newChain p.name p.dict
  ((c.appendNamed h p.plugins).map fun c =>
    { c with period := p.period, isHidden := p.isHidden, policy := p.policy }, h)

/-- Puts the chains of some plans together, up to the first that fails. -/
def ChainPlan.buildAll : List ChainPlan → Host → Except RegistryError (List Chain) × Host
  | [], h => (.ok [], h)
  | p :: plans, h =>
    match p.build h with
    | (.error e, h) => (.error e, h)
    | (.ok c, h) =>
      let (chains, h) := buildAll plans h
      (chains.map (c :: ·), h)

/-- Puts all chains of a configuration together. -/
def Config.buildChains (c : Config) (h : Host) : Except RegistryError (List Chain) × Host :=
  ChainPlan.buildAll c.chains h

end Calibration
