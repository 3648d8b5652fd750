import RedemptionWatch.Config.Settings
import RedemptionWatch.Rehearsal.World

/-!
# Rehearsals over endpoints

Worlds whose watchers get their data from endpoints, as they do when the program runs. How the
endpoints reply is a parameter.
-/

namespace RedemptionWatch.Rehearsal

variable {ρ : Type}

/-- How endpoints reply, and how many pages of a listing are read before it is given up. -/
structure Network (ρ : Type) where
  reply : Endpoint.Request → StateM ρ Endpoint.Reply
  pageLimit : Nat

namespace Network

/-- No endpoint can be reached, so no listing has a second page. -/
def down : Network Unit where
  reply q := pure (Endpoint.unreachable q)
  pageLimit := 2

/-- What a plan over endpoints gives. -/
def fetch {α : Type} (n : Network ρ) (plan : Endpoint.Fetch α) : StateM ρ (Except FetchError α) :=
  Plan.run (P := Endpoint.interface) n.reply plan.run

/-- The redemptions of a block. A listing that is given up counts as cancelled. -/
def block (n : Network ρ) (source : Source) (number : UInt64) :
    StateM ρ (Except FetchError (Option (List Candidate))) := do
  let answer ← Loop.run (source.block number) n.reply n.pageLimit Terra.Pages.start
  return answer.getD (.error .cancelled)

/-- Endpoints as sources. -/
def sources (n : Network ρ) (all : List Source) : Sources ρ where
  latestBlock i := match all[i]? with
    | some s => n.fetch s.latestBlock
    | none => pure (.error .cancelled)
  block i number := match all[i]? with
    | some s => n.block s number
    | none => pure (.error .cancelled)
  activity i range token := match all[i]? with
    | some s => n.fetch (s.activity range token)
    | none => pure (.error .cancelled)
  listingRounds _ _ := n.pageLimit

end Network

/-- The world of a configuration. -/
def World.ofSettings (n : Network ρ) (remote : ρ) (all : List Settings) (books : Books) : World ρ :=
  .of (n.sources (all.map (·.source))) remote (all.map (·.watcher)) books

end RedemptionWatch.Rehearsal
