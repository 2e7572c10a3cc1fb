import LeafHub.Scenario.Perform

namespace LeafHub.Scenario

/-- What came of a step. -/
structure StepReport where
  answer : Answer
  trace : List Answer
  /-- The lines in the log, where somebody asked for them. -/
  log : Option (List String)
  deriving Inhabited

/-- A bound on the steps of the hub and the bench that one step of a scenario may take. -/
def stepLimit : Nat := 10000000

/-- The letter of a level in log lines. -/
def levelLetter : Level → String
  | .error => "E"
  | .warn => "W"
  | .info => "I"
  | .debug => "D"

/-- The lines of happenings that are as severe as a level, or more. -/
def logLines (threshold : Level) (happenings : Array Happening) : List String :=
  happenings.toList.filterMap fun happening =>
    happening.logLine?.bind fun (level, line) =>
      if level.rank ≤ threshold.rank then some (levelLetter level ++ " " ++ line) else none

/-- The world at the start of a scenario. -/
def start (config : Config) : World Bench :=
  ⟨.fresh config, .empty⟩

/-- Carries out one step. A step that takes too long has no answer. -/
def runStep (threshold : Option Level) (step : Step) (world : World Bench) : StepReport × World Bench :=
  let before := world.hub.journal.size
  let (rest, after) := Routine.run application stepLimit (Play.perform step) world
  let bench := after.own.catchUp after.hub.journal
  let news := (after.hub.journal.toSubarray before).toArray
  ({ answer := rest.answer?.getD .nothing, trace := bench.trace.toList, log := threshold.map fun t => logLines t news },
    { after with own := { bench with trace := #[] } })

/-- Carries out steps one after the other. -/
def runSteps (threshold : Option Level) : List Step → World Bench → List StepReport
  | [], _ => []
  | step :: rest, world =>
    let (report, after) := runStep threshold step world
    report :: runSteps threshold rest after

/-- Runs a scenario on a new hub. -/
def run (config : Config) (threshold : Option Level) (steps : List Step) : List StepReport :=
  runSteps threshold steps (start config)

end LeafHub.Scenario
