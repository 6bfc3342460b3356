import CoinAddress.Address.Json
import CoinAddress.Address.Script
import CoinAddress.Proofs.Registry.Resolution
import CoinAddress.Proofs.Registry.Views
import CoinAddress.Registry.Request
import CoinAddress.Service
import CoinAddress.Proofs.Registry.FirstAcceptor
import CoinAddress.Proofs.Registry.Growth
import CoinAddress.Proofs.Registry.Namesakes
import CoinAddress.Proofs.Hex
import CoinAddress.Proofs.Service.Answers
import CoinAddress.Proofs.Config.Loading
import CoinAddress.Proofs.Json.Numeral
import CoinAddress.Proofs.Json.Reads
import CoinAddress.Proofs.Json.Members
import CoinAddress.Proofs.Config.RoundTrip
import CoinAddress.Proofs.Service.Resolution
import CoinAddress.Proofs.Service.RoundTrip
import CoinAddress.Proofs.Base58.Verdict
import CoinAddress.Proofs.Registry.Accounts
import CoinAddress.Proofs.Base58.Positional
import CoinAddress.Proofs.Address.Leading
import CoinAddress.Proofs.Address.Script
import CoinAddress.Proofs.Address.Expected
import CoinAddress.Proofs.Registry.Batch
import CoinAddress.Proofs.Registry.Order
import CoinAddress.Proofs.Registry.Removal
import CoinAddress.Proofs.Config.FirstFault
import CoinAddress.Proofs.Address.Order
import CoinAddress.Proofs.Address.Json
import CoinAddress.Proofs.Config.Spelling
import CoinAddress.Proofs.Config.Versions
import CoinAddress.Proofs.Registry.Journal
import CoinAddress.Proofs.Base58.Capacity
import CoinAddress.Proofs.Base58.Carries
