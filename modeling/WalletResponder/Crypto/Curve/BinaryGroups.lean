import WalletResponder.Crypto.Curve.Group

/-!
# Groups over binary fields

The groups that a key may name whose coordinates are polynomials.
-/

namespace WalletResponder.Group

/-- The groups of the families `sect`, `c2pnb`, `c2tnb` and `wtls`. -/
def overPolynomials : List Group := [
  ⟨utf8 "sect113r1", [0x2b, 0x81, 0x04, 0x00, 0x04],
    .binary ⟨113, [9, 0]⟩, 0x3088250ca6e7c7fe649ce85820f7, 0xe8bee4d3e2260744188be0e9c723,
    0x9d73616f35f4ab1407d73562c10f, 0xa52830277958ee84d1315ed31886, 0x100000000000000d9ccec8a39e56f,
    2⟩,
  ⟨utf8 "sect113r2", [0x2b, 0x81, 0x04, 0x00, 0x05],
    .binary ⟨113, [9, 0]⟩, 0x689918dbec7e5a0dd6dfc0aa55c7, 0x95e9a9ec9b297bd4bf36e059184f,
    0x1a57a6a7b26ca5ef52fcdb8164797, 0xb3adc94ed1fe674c06e695baba1d,
    0x10000000000000108789b2496af93, 2⟩,
  ⟨utf8 "sect131r1", [0x2b, 0x81, 0x04, 0x00, 0x16],
    .binary ⟨131, [8, 3, 2, 0]⟩, 0x7a11b09a76b562144418ff3ff8c2570b8,
    0x217c05610884b63b9c6c7291678f9d341, 0x81baf91fdf9833c40f9c181343638399,
    0x78c6e7ea38c001f73c8134b1b4ef9e150, 0x400000000000000023123953a9464b54d, 2⟩,
  ⟨utf8 "sect131r2", [0x2b, 0x81, 0x04, 0x00, 0x17],
    .binary ⟨131, [8, 3, 2, 0]⟩, 0x3e5a88919d7cafcbf415f07c2176573b2,
    0x4b8266a46c55657ac734ce38f018f2192, 0x356dcd8f2f95031ad652d23951bb366a8,
    0x648f06d867940a5366d9e265de9eb240f, 0x400000000000000016954a233049ba98f, 2⟩,
  ⟨utf8 "sect163k1", [0x2b, 0x81, 0x04, 0x00, 0x01],
    .binary ⟨163, [7, 6, 3, 0]⟩, 1, 1, 0x2fe13c0537bbc11acaa07d793de4e6d5e5c94eee8,
    0x289070fb05d38ff58321f2e800536d538ccdaa3d9, 0x4000000000000000000020108a2e0cc0d99f8a5ef, 2⟩,
  ⟨utf8 "sect163r1", [0x2b, 0x81, 0x04, 0x00, 0x02],
    .binary ⟨163, [7, 6, 3, 0]⟩, 0x7b6882caaefa84f9554ff8428bd88e246d2782ae2,
    0x713612dcddcb40aab946bda29ca91f73af958afd9, 0x369979697ab43897789566789567f787a7876a654,
    0x435edb42efafb2989d51fefce3c80988f41ff883, 0x3ffffffffffffffffffff48aab689c29ca710279b, 2⟩,
  ⟨utf8 "sect163r2", [0x2b, 0x81, 0x04, 0x00, 0x0f],
    .binary ⟨163, [7, 6, 3, 0]⟩, 1, 0x20a601907b8c953ca1481eb10512f78744a3205fd,
    0x3f0eba16286a2d57ea0991168d4994637e8343e36, 0xd51fbc6c71a0094fa2cdd545b11c5c0c797324f1,
    0x40000000000000000000292fe77e70c12a4234c33, 2⟩,
  ⟨utf8 "sect193r1", [0x2b, 0x81, 0x04, 0x00, 0x18],
    .binary ⟨193, [15, 0]⟩, 0x17858feb7a98975169e171f77b4087de098ac8a911df7b01,
    0xfdfb49bfe6c3a89facadaa7a1e5bbc7cc1c2e5d831478814,
    0x1f481bc5f0ff84a74ad6cdf6fdef4bf6179625372d8c0c5e1,
    0x25e399f2903712ccf3ea9e3a1ad17fb0b3201b6af7ce1b05,
    0x1000000000000000000000000c7f34a778f443acc920eba49, 2⟩,
  ⟨utf8 "sect193r2", [0x2b, 0x81, 0x04, 0x00, 0x19],
    .binary ⟨193, [15, 0]⟩, 0x163f35a5137c2ce3ea6ed8667190b0bc43ecd69977702709b,
    0xc9bb9e8927d4d64c377e2ab2856a5b16e3efb7f61d4316ae,
    0xd9b67d192e0367c803f39e1a7e82ca14a651350aae617e8f,
    0x1ce94335607c304ac29e7defbd9ca01f596f927224cdecf6c,
    0x10000000000000000000000015aab561b005413ccd4ee99d5, 2⟩,
  ⟨utf8 "sect233k1", [0x2b, 0x81, 0x04, 0x00, 0x1a],
    .binary ⟨233, [74, 0]⟩, 0, 1, 0x17232ba853a7e731af129f22ff4149563a419c26bf50a4c9d6eefad6126,
    0x1db537dece819b7f70f555a67c427a8cd9bf18aeb9b56e0c11056fae6a3,
    0x8000000000000000000000000000069d5bb915bcd46efb1ad5f173abdf, 4⟩,
  ⟨utf8 "sect233r1", [0x2b, 0x81, 0x04, 0x00, 0x1b],
    .binary ⟨233, [74, 0]⟩, 1, 0x66647ede6c332c7f8c0923bb58213b333b20e9ce4281fe115f7d8f90ad,
    0xfac9dfcbac8313bb2139f1bb755fef65bc391f8b36f8f8eb7371fd558b,
    0x1006a08a41903350678e58528bebf8a0beff867a7ca36716f7e01f81052,
    0x1000000000000000000000000000013e974e72f8a6922031d2603cfe0d7, 2⟩,
  ⟨utf8 "sect239k1", [0x2b, 0x81, 0x04, 0x00, 0x03],
    .binary ⟨239, [158, 0]⟩, 0, 1, 0x29a0b6a887a983e9730988a68727a8b2d126c44cc2cc7b2a6555193035dc,
    0x76310804f12e549bdb011c103089e73510acb275fc312a5dc6b76553f0ca,
    0x2000000000000000000000000000005a79fec67cb6e91f1c1da800e478a5, 4⟩,
  ⟨utf8 "sect283k1", [0x2b, 0x81, 0x04, 0x00, 0x10],
    .binary ⟨283, [12, 7, 5, 0]⟩, 0, 1,
    0x503213f78ca44883f1a3b8162f188e553cd265f23c1567a16876913b0c2ac2458492836,
    0x1ccda380f1c9e318d90f95d07e5426fe87e45c0e8184698e45962364e34116177dd2259,
    0x1ffffffffffffffffffffffffffffffffffe9ae2ed07577265dff7f94451e061e163c61, 4⟩,
  ⟨utf8 "sect283r1", [0x2b, 0x81, 0x04, 0x00, 0x11],
    .binary ⟨283, [12, 7, 5, 0]⟩, 1,
    0x27b680ac8b8596da5a4af8a19a0303fca97fd7645309fa2a581485af6263e313b79a2f5,
    0x5f939258db7dd90e1934f8c70b0dfec2eed25b8557eac9c80e2e198f8cdbecd86b12053,
    0x3676854fe24141cb98fe6d4b20d02b4516ff702350eddb0826779c813f0df45be8112f4,
    0x3ffffffffffffffffffffffffffffffffffef90399660fc938a90165b042a7cefadb307, 2⟩,
  ⟨utf8 "sect409k1", [0x2b, 0x81, 0x04, 0x00, 0x24],
    .binary ⟨409, [87, 0]⟩, 0, 1,
    0x60f05f658f49c1ad3ab1890f7184210efd0987e307c84c27accfb8f9f67cc2c460189eb5aaaa62ee222eb1b35540cfe9023746,
    0x1e369050b7c4e42acba1dacbf04299c3460782f918ea427e6325165e9ea10e3da5f6c42e9c55215aa9ca27a5863ec48d8e0286b,
    0x7ffffffffffffffffffffffffffffffffffffffffffffffffffe5f83b2d4ea20400ec4557d5ed3e3e7ca5b4b5c83b8e01e5fcf,
    4⟩,
  ⟨utf8 "sect409r1", [0x2b, 0x81, 0x04, 0x00, 0x25],
    .binary ⟨409, [87, 0]⟩, 1,
    0x21a5c2c8ee9feb5c4b9a753b7b476b7fd6422ef1f3dd674761fa99d6ac27c8a9a197b272822f6cd57a55aa4f50ae317b13545f,
    0x15d4860d088ddb3496b0c6064756260441cde4af1771d4db01ffe5b34e59703dc255a868a1180515603aeab60794e54bb7996a7,
    0x61b1cfab6be5f32bbfa78324ed106a7636b9c5a7bd198d0158aa4f5488d08f38514f1fdf4b4f40d2181b3681c364ba0273c706,
    0x10000000000000000000000000000000000000000000000000001e2aad6a612f33307be5fa47c3c9e052f838164cd37d9a21173,
    2⟩,
  ⟨utf8 "sect571k1", [0x2b, 0x81, 0x04, 0x00, 0x26],
    .binary ⟨571, [10, 5, 2, 0]⟩, 0, 1,
    0x26eb7a859923fbc82189631f8103fe4ac9ca2970012d5d46024804801841ca44370958493b205e647da304db4ceb08cbbd1ba39494776fb988b47174dca88c7e2945283a01c8972,
    0x349dc807f4fbf374f4aeade3bca95314dd58cec9f307a54ffc61efc006d8a2c9d4979c0ac44aea74fbebbb9f772aedcb620b01a7ba7af1b320430c8591984f601cd4c143ef1c7a3,
    0x20000000000000000000000000000000000000000000000000000000000000000000000131850e1f19a63e4b391a8db917f4138b630d84be5d639381e91deb45cfe778f637c1001,
    4⟩,
  ⟨utf8 "sect571r1", [0x2b, 0x81, 0x04, 0x00, 0x27],
    .binary ⟨571, [10, 5, 2, 0]⟩, 1,
    0x2f40e7e2221f295de297117b7f3d62f5c6a97ffcb8ceff1cd6ba8ce4a9a18ad84ffabbd8efa59332be7ad6756a66e294afd185a78ff12aa520e4de739baca0c7ffeff7f2955727a,
    0x303001d34b856296c16c0d40d3cd7750a93d1d2955fa80aa5f40fc8db7b2abdbde53950f4c0d293cdd711a35b67fb1499ae60038614f1394abfa3b4c850d927e1e7769c8eec2d19,
    0x37bf27342da639b6dccfffeb73d69d78c6c27a6009cbbca1980f8533921e8a684423e43bab08a576291af8f461bb2a8b3531d2f0485c19b16e2f1516e23dd3c1a4827af1b8ac15b,
    0x3ffffffffffffffffffffffffffffffffffffffffffffffffffffffffffffffffffffffe661ce18ff55987308059b186823851ec7dd9ca1161de93d5174d66e8382e9bb2fe84e47,
    2⟩,
  ⟨utf8 "c2pnb163v1", [0x2a, 0x86, 0x48, 0xce, 0x3d, 0x03, 0x00, 0x01],
    .binary ⟨163, [8, 2, 1, 0]⟩, 0x72546b5435234a422e0789675f432c89435de5242,
    0xc9517d06d5240d3cff38c74b20b6cd4d6f9dd4d9, 0x7af69989546103d79329fcc3d74880f33bbe803cb,
    0x1ec23211b5966adea1d3f87f7ea5848aef0b7ca9f, 0x400000000000000000001e60fc8821cc74daeafc1, 2⟩,
  ⟨utf8 "c2pnb163v2", [0x2a, 0x86, 0x48, 0xce, 0x3d, 0x03, 0x00, 0x02],
    .binary ⟨163, [8, 2, 1, 0]⟩, 0x108b39e77c4b108bed981ed0e890e117c511cf072,
    0x667aceb38af4e488c407433ffae4f1c811638df20, 0x24266e4eb5106d0a964d92c4860e2671db9b6cc5,
    0x79f684ddf6684c5cd258b3890021b2386dfd19fc5, 0x3fffffffffffffffffffdf64de1151adbb78f10a7, 2⟩,
  ⟨utf8 "c2pnb163v3", [0x2a, 0x86, 0x48, 0xce, 0x3d, 0x03, 0x00, 0x03],
    .binary ⟨163, [8, 2, 1, 0]⟩, 0x7a526c63d3e25a256a007699f5447e32ae456b50e,
    0x3f7061798eb99e238fd6f1bf95b48feeb4854252b, 0x2f9f87b7c574d0bdecf8a22e6524775f98cdebdcb,
    0x5b935590c155e17ea48eb3ff3718b893df59a05d0, 0x3fffffffffffffffffffe1aee140f110aff961309, 2⟩,
  ⟨utf8 "c2pnb176v1", [0x2a, 0x86, 0x48, 0xce, 0x3d, 0x03, 0x00, 0x04],
    .binary ⟨176, [43, 2, 1, 0]⟩, 0xe4e6db2995065c407d9d39b8d0967b96704ba8e9c90b,
    0x5dda470abe6414de8ec133ae28e9bbd7fcec0ae0fff2, 0x8d16c2866798b600f9f08bb4a8e860f3298ce04a5798,
    0x6fa4539c2dadddd6bab5167d61b436e1d92bb16a562c, 0x10092537397eca4f6145799d62b0a19ce06fe26ad,
    65390⟩,
  ⟨utf8 "c2tnb191v1", [0x2a, 0x86, 0x48, 0xce, 0x3d, 0x03, 0x00, 0x05],
    .binary ⟨191, [9, 0]⟩, 0x2866537b676752636a68f56554e12640276b649ef7526267,
    0x2e45ef571f00786f67b0081b9495a3d95462f5de0aa185ec,
    0x36b3daf8a23206f9c4f299d7b21a9c369137f2c84ae1aa0d,
    0x765be73433b3f95e332932e70ea245ca2418ea0ef98018fb,
    0x40000000000000000000000004a20e90c39067c893bbb9a5, 2⟩,
  ⟨utf8 "c2tnb191v2", [0x2a, 0x86, 0x48, 0xce, 0x3d, 0x03, 0x00, 0x06],
    .binary ⟨191, [9, 0]⟩, 0x401028774d7777c7b7666d1366ea432071274f89ff01e718,
    0x620048d28bcbd03b6249c99182b7c8cd19700c362c46a01,
    0x3809b2b7cc1b28cc5a87926aad83fd28789e81e2c9e3bf10,
    0x17434386626d14f3dbf01760d9213a3e1cf37aec437d668a,
    0x20000000000000000000000050508cb89f652824e06b8173, 4⟩,
  ⟨utf8 "c2tnb191v3", [0x2a, 0x86, 0x48, 0xce, 0x3d, 0x03, 0x00, 0x07],
    .binary ⟨191, [9, 0]⟩, 0x6c01074756099122221056911c77d77e77a777e7e7e77fcb,
    0x71fe1af926cf847989efef8db459f66394d90f32ad3f15e8,
    0x375d4ce24fde434489de8746e71786015009e66e38a926dd,
    0x545a39176196575d985999366e6ad34ce0a77cd7127b06be,
    0x155555555555555555555555610c0b196812bfb6288a3ea3, 6⟩,
  ⟨utf8 "c2pnb208w1", [0x2a, 0x86, 0x48, 0xce, 0x3d, 0x03, 0x00, 0x0a],
    .binary ⟨208, [83, 2, 1, 0]⟩, 0, 0xc8619ed45a62e6212e1160349e2bfa844439fafc2a3fd1638f9e,
    0x89fdfbe4abe193df9559ecf07ac0ce78554e2784eb8c1ed1a57a,
    0xf55b51a06e78e9ac38a035ff520d8b01781beb1a6bb08617de3,
    0x101baf95c9723c57b6c21da2eff2d5ed588bdd5717e212f9d, 65096⟩,
  ⟨utf8 "c2tnb239v1", [0x2a, 0x86, 0x48, 0xce, 0x3d, 0x03, 0x00, 0x0b],
    .binary ⟨239, [36, 0]⟩, 0x32010857077c5431123a46b808906756f543423e8d27877578125778ac76,
    0x790408f2eedaf392b012edefb3392f30f4327c0ca3f31fc383c422aa8c16,
    0x57927098fa932e7c0a96d3fd5b706ef7e5f5c156e16b7e7c86038552e91d,
    0x61d8ee5077c33fecf6f1a16b268de469c3c7744ea9a971649fc7a9616305,
    0x2000000000000000000000000000000f4d42ffe1492a4993f1cad666e447, 4⟩,
  ⟨utf8 "c2tnb239v2", [0x2a, 0x86, 0x48, 0xce, 0x3d, 0x03, 0x00, 0x0c],
    .binary ⟨239, [36, 0]⟩, 0x4230017757a767fae42398569b746325d45313af0766266479b75654e65f,
    0x5037ea654196cff0cd82b2c14a2fcf2e3ff8775285b545722f03eacdb74b,
    0x28f9d04e900069c8dc47a08534fe76d2b900b7d7ef31f5709f200c4ca205,
    0x5667334c45aff3b5a03bad9dd75e2c71a99362567d5453f7fa6e227ec833,
    0x1555555555555555555555555555553c6f2885259c31e3fcdf154624522d, 6⟩,
  ⟨utf8 "c2tnb239v3", [0x2a, 0x86, 0x48, 0xce, 0x3d, 0x03, 0x00, 0x0d],
    .binary ⟨239, [36, 0]⟩, 0x1238774666a67766d6676f778e676b66999176666e687666d8766c66a9f,
    0x6a941977ba9f6a435199acfc51067ed587f519c5ecb541b8e44111de1d40,
    0x70f6e9d04d289c4e89913ce3530bfde903977d42b146d539bf1bde4e9c92,
    0x2e5a0eaf6e5e1305b9004dce5c0ed7fe59a35608f33837c816d80b79f461,
    0xcccccccccccccccccccccccccccccac4912d2d9df903ef9888b8a0e4cff, 10⟩,
  ⟨utf8 "c2pnb272w1", [0x2a, 0x86, 0x48, 0xce, 0x3d, 0x03, 0x00, 0x10],
    .binary ⟨272, [56, 3, 1, 0]⟩,
    0x91a091f03b5fba4ab2ccf49c4edd220fb028712d42be752b2c40094dbacdb586fb20,
    0x7167efc92bb2e3ce7c8aaaff34e12a9c557003d7c73a6faf003f99f6cc8482e540f7,
    0x6108babb2ceebcf787058a056cbe0cfe622d7723a289e08a07ae13ef0d10d171dd8d,
    0x10c7695716851eef6ba7f6872e6142fbd241b830ff5efcaceccab05e02005dde9d23,
    0x100faf51354e0e39e4892df6e319c72c8161603fa45aa7b998a167b8f1e629521, 65286⟩,
  ⟨utf8 "c2pnb304w1", [0x2a, 0x86, 0x48, 0xce, 0x3d, 0x03, 0x00, 0x11],
    .binary ⟨304, [11, 2, 1, 0]⟩,
    0xfd0d693149a118f651e6dce6802085377e5f882d1b510b44160074c1288078365a0396c8e681,
    0xbddb97e555a50a908e43b01c798ea5daa6788f1ea2794efcf57166b8c14039601e55827340be,
    0x197b07845e9be2d96adb0f5f3c7f2cffbd7a3eb8b6fec35c7fd67f26ddf6285a644f740a2614,
    0xe19fbeb76e0da171517ecf401b50289bf014103288527a9b416a105e80260b549fdc1b92c03b,
    0x101d556572aabac800101d556572aabac8001022d5c91dd173f8fb561da6899164443051d, 65070⟩,
  ⟨utf8 "c2tnb359v1", [0x2a, 0x86, 0x48, 0xce, 0x3d, 0x03, 0x00, 0x12],
    .binary ⟨359, [68, 0]⟩,
    0x5667676a654b20754f356ea92017d946567c46675556f19556a04616b567d223a5e05656fb549016a96656a557,
    0x2472e2d0197c49363f1fe7f5b6db075d52b6947d135d8ca445805d39bc345626089687742b6329e70680231988,
    0x3c258ef3047767e7ede0f1fdaa79daee3841366a132e163aced4ed2401df9c6bdcde98e8e707c07a2239b1b097,
    0x53d7e08529547048121e9c95f3791dd804963948f34fae7bf44ea82365dc7868fe57e4ae2de211305a407104bd,
    0x1af286bca1af286bca1af286bca1af286bca1af286bc9fb8f6b85c556892c20a7eb964fe7719e74f490758d3b, 76⟩,
  ⟨utf8 "c2pnb368w1", [0x2a, 0x86, 0x48, 0xce, 0x3d, 0x03, 0x00, 0x13],
    .binary ⟨368, [85, 2, 1, 0]⟩,
    0xe0d2ee25095206f5e2a4f9ed229f1f256e79a0e2b455970d8d0d865bd94778c576d62f0ab7519ccd2a1a906ae30d,
    0xfc1217d4320a90452c760a58edcd30c8dd069b3c34453837a34ed50cb54917e1c2112d84d164f444f8f74786046a,
    0x1085e2755381dccce3c1557afa10c2f0c0c2825646c5b34a394cbcfa8bc16b22e7e789e927be216f02e1fb136a5f,
    0x7b3eb1bddcba62d5d8b2059b525797fc73822c59059c623a45ff3843cee8f87cd1855adaa81e2a0750b80fda2310,
    0x10090512da9af72b08349d98a5dd4c7b0532eca51ce03e2d10f3b7ac579bd87e909ae40a6f131e9cfce5bd967,
    65392⟩,
  ⟨utf8 "c2tnb431r1", [0x2a, 0x86, 0x48, 0xce, 0x3d, 0x03, 0x00, 0x14],
    .binary ⟨431, [120, 0]⟩,
    0x1a827ef00dd6fc0e234caf046c6a5d8a85395b236cc4ad2cf32a0cadbdc9ddf620b0eb9906d0957f6c6feacd615468df104de296cd8f,
    0x10d9b4a3d9047d8b154359abfb1b7f5485b04ceb868237ddc9deda982a679a5a919b626d4e50a8dd731b107a9962381fb5d807bf2618,
    0x120fc05d3c67a99de161d2f4092622feca701be4f50f4758714e8a87bbf2a658ef8c21e7c5efe965361f6c2999c0c247b0dbd70ce6b7,
    0x20d0af8903a96f8d5fa2c255745d3c451b302c9346d9b7e485e7bce41f6b591f3e8f6addcbb0bc4c2f947a7de1a89b625d6a598b3760,
    0x340340340340340340340340340340340340340340340340340340323c313fab50589703b5ec68d3587fec60d161cc149c1ad4a91,
    10080⟩,
  ⟨utf8 "wap-wsg-idm-ecid-wtls1", [0x67, 0x2b, 0x01, 0x04, 0x01],
    .binary ⟨113, [9, 0]⟩, 1, 1, 0x1667979a40ba497e5d5c270780617, 0xf44b4af1ecc2630e08785cebcc15,
    0xfffffffffffffffdbf91af6dea73, 2⟩,
  ⟨utf8 "wap-wsg-idm-ecid-wtls3", [0x67, 0x2b, 0x01, 0x04, 0x03],
    .binary ⟨163, [7, 6, 3, 0]⟩, 1, 1, 0x2fe13c0537bbc11acaa07d793de4e6d5e5c94eee8,
    0x289070fb05d38ff58321f2e800536d538ccdaa3d9, 0x4000000000000000000020108a2e0cc0d99f8a5ef, 2⟩,
  ⟨utf8 "wap-wsg-idm-ecid-wtls4", [0x67, 0x2b, 0x01, 0x04, 0x04],
    .binary ⟨113, [9, 0]⟩, 0x3088250ca6e7c7fe649ce85820f7, 0xe8bee4d3e2260744188be0e9c723,
    0x9d73616f35f4ab1407d73562c10f, 0xa52830277958ee84d1315ed31886, 0x100000000000000d9ccec8a39e56f,
    2⟩,
  ⟨utf8 "wap-wsg-idm-ecid-wtls5", [0x67, 0x2b, 0x01, 0x04, 0x05],
    .binary ⟨163, [8, 2, 1, 0]⟩, 0x72546b5435234a422e0789675f432c89435de5242,
    0xc9517d06d5240d3cff38c74b20b6cd4d6f9dd4d9, 0x7af69989546103d79329fcc3d74880f33bbe803cb,
    0x1ec23211b5966adea1d3f87f7ea5848aef0b7ca9f, 0x400000000000000000001e60fc8821cc74daeafc1, 2⟩,
  ⟨utf8 "wap-wsg-idm-ecid-wtls10", [0x67, 0x2b, 0x01, 0x04, 0x0a],
    .binary ⟨233, [74, 0]⟩, 0, 1, 0x17232ba853a7e731af129f22ff4149563a419c26bf50a4c9d6eefad6126,
    0x1db537dece819b7f70f555a67c427a8cd9bf18aeb9b56e0c11056fae6a3,
    0x8000000000000000000000000000069d5bb915bcd46efb1ad5f173abdf, 4⟩,
  ⟨utf8 "wap-wsg-idm-ecid-wtls11", [0x67, 0x2b, 0x01, 0x04, 0x0b],
    .binary ⟨233, [74, 0]⟩, 1, 0x66647ede6c332c7f8c0923bb58213b333b20e9ce4281fe115f7d8f90ad,
    0xfac9dfcbac8313bb2139f1bb755fef65bc391f8b36f8f8eb7371fd558b,
    0x1006a08a41903350678e58528bebf8a0beff867a7ca36716f7e01f81052,
    0x1000000000000000000000000000013e974e72f8a6922031d2603cfe0d7, 2⟩]

end WalletResponder.Group
