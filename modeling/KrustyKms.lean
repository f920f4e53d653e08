import KrustyKms.AccountClass.Guardian
import KrustyKms.Bitcoin.Bech32Theorems
import KrustyKms.Bitcoin.PsbtIncremental
import KrustyKms.Bitcoin.PsbtMeteredTheorems
import KrustyKms.Bitcoin.SignatureEncoding
import KrustyKms.Client.CoordinationTheorems
import KrustyKms.Client.EventReaderTheorems
import KrustyKms.Client.EventsTheorems
import KrustyKms.Client.InMemoryTheorems
import KrustyKms.Client.ReadersTheorems
import KrustyKms.Client.SsrfTheorems
import KrustyKms.Client.Staking
import KrustyKms.Common.RedactUrl
import KrustyKms.Common.UtilsTheorems
import KrustyKms.Crypto.AuditBinding
import KrustyKms.Crypto.ElgamalTheorems
import KrustyKms.Crypto.Random
import KrustyKms.Crypto.RangeTotality
import KrustyKms.Derivation.Grinding
import KrustyKms.Discovery.GenerateTheorems
import KrustyKms.Ffi.CalldataTheorems
import KrustyKms.Gateway.Fee
import KrustyKms.Gateway.OperationsTheorems
import KrustyKms.Gateway.SnapshotTheorems
import KrustyKms.Gateway.Wait
import KrustyKms.Kms.KeystoreTheorems
import KrustyKms.Kms.Strk20Theorems
import KrustyKms.MentalPoker.Blackjack
import KrustyKms.MentalPoker.ShuffleTheorems
import KrustyKms.Nostr.ApplicationDataTheorems
import KrustyKms.Oracle.Stdio
import KrustyKms.QsbHors.KeyTheorems
import KrustyKms.QsbHors.Weight
import KrustyKms.Sdk.FundTheorems
import KrustyKms.Sdk.RagequitTheorems
import KrustyKms.Sdk.TransferTheorems
import KrustyKms.Sdk.WithdrawTheorems
import KrustyKms.Starknet.TxHashTheorems
import KrustyKms.Starknet.TypedDataTheorems
import KrustyKms.WalletApi.RpcTransport
import KrustyKms.WalletApi.WaitTheorems
