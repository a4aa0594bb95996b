import GraphCommit.Connector
import GraphCommit.Store.Depot

/-!
# Connectors over depots

A connector's main repository and its working repository, in directories below the data directory
or in memory if there is none.
-/

namespace GraphCommit.Depot

/-- The depot of a connector, with neither repository open. -/
def ofSettings (settings : Settings) (files : Files) : Depot where
  files
  repositories :=
    [⟨settings.repository, settings.repositoryDir, none⟩,
     ⟨settings.workingRepository, settings.workingDir, none⟩]

/-- Opens the main repository and makes a connector. -/
def connector (settings : Settings) (files : Files) (log : Log) :
    Except Fault (Connector Depot) := do
  match settings.validate files with
  | .error e => throw e.fault
  | .ok settings =>
    let response := (initialize_ main).respond (ofSettings settings files)
    response.result
    let outside : Outside Depot := ⟨response.state, log.addAll response.records⟩
    let message := "opened repository " ++ settings.repository ++ " with working repository " ++
      settings.workingRepository
    Connector.open_ settings response.state.files (outside.note .debug Record.connectors message)
      true

end GraphCommit.Depot
