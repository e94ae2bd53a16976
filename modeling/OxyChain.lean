import OxyChain.Hex
import OxyChain.Validators.Set
import OxyChain.Validators.Calls
import OxyChain.Validators.Order
import OxyChain.Validators.Invariants
import OxyChain.Validators.Rotate
import OxyChain.Validators.Jail
import OxyChain.Validators.Methods
import OxyChain.Abci.Types
import OxyChain.Store
import OxyChain.Execution.State
import OxyChain.Execution.Frame
import OxyChain.Execution.Contracts
import OxyChain.Abci.Validate
import OxyChain.Abci.App
import OxyChain.Abci.Query
import OxyChain.Node.Run
import OxyChain.Abci.Admission
import OxyChain.Abci.Proposal
import OxyChain.Abci.Paths
import OxyChain.Node.Frame
import OxyChain.Node.AppHash
import OxyChain.Node.Blocks
import OxyChain.Node.Chain
import OxyChain.Node.OutOfBand
import OxyChain.Node.Recovery
import OxyChain.Node.Rotation
import OxyChain.Startup
import OxyChain.Api.RateLimit
import OxyChain.Api.Health
import OxyChain.Api.Server
